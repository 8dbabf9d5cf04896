import Mathlib
import Mustache.Proofs.Template.Location
/-!
Where a search for a delimiter ends. The last character of the delimiter is compared with what is
read and the rest of it with the end of the buffer, which may hold characters from before the
search. Main statement: the search ends with the shortest text that completes the delimiter behind
the buffer, at the leftmost occurrence if the buffer is empty, and this is what a reader that looks
for a delimiter does.
-/
namespace Mustache

namespace Scan

variable {delimiter head buffer back cs read : List Char} {stopper c : Char}

/-- A text that completes a delimiter behind a buffer, and not before its last character. -/
structure Completes (delimiter buffer read : List Char) : Prop where
  some : read ≠ []
  ends : delimiter <:+ buffer ++ read
  shortest : ∀ early, early ≠ [] → early <+: read → delimiter <:+ buffer ++ early → early = read

/-- A text of which nothing completes a delimiter behind a buffer. -/
def Clear (delimiter buffer cs : List Char) : Prop :=
  ∀ read, read ≠ [] → read <+: cs → ¬ delimiter <:+ buffer ++ read

theorem clear_nil : Clear delimiter buffer [] :=
  fun _ some inside => (some (List.prefix_nil.mp inside)).elim

theorem clear_cons_iff : Clear delimiter buffer (c :: cs) ↔
    ¬ delimiter <:+ buffer ++ [c] ∧ Clear delimiter (buffer ++ [c]) cs := by
  constructor
  · intro clear
    refine ⟨clear [c] (List.cons_ne_nil _ _) (by simp), fun read _ inside ends => ?_⟩
    refine clear (c :: read) (List.cons_ne_nil _ _) (by simpa using inside) ?_
    simpa using ends
  · rintro ⟨open_end, clear⟩ read some inside ends
    obtain rfl | ⟨later, rfl, within⟩ := List.prefix_cons_iff.mp inside
    · exact some rfl
    · cases later with
      | nil => exact open_end ends
      | cons d later => exact clear _ (List.cons_ne_nil _ _) within (by simpa using ends)

/-- A text completes a delimiter with its last character exactly if it is clear up to there. -/
theorem completes_concat_iff : Completes delimiter buffer (read ++ [c]) ↔
    Clear delimiter buffer read ∧ delimiter <:+ buffer ++ (read ++ [c]) := by
  constructor
  · refine fun completes => ⟨fun early some inside ends => ?_, completes.ends⟩
    have same := completes.shortest early some (inside.trans (List.prefix_append _ _)) ends
    have shorter := inside.length_le
    simp [same] at shorter
  · rintro ⟨clear, ends⟩
    refine ⟨by simp, ends, fun early some inside early_ends => ?_⟩
    rcases List.prefix_concat_iff.mp inside with whole | shorter
    · exact whole
    · exact (clear early some shorter early_ends).elim

/-- If anything completes a delimiter, then there is a shortest such text. -/
theorem clear_or_completes (delimiter buffer cs : List Char) :
    Clear delimiter buffer cs ∨
      ∃ read rest, cs = read ++ rest ∧ Completes delimiter buffer read := by
  induction cs using List.reverseRecOn with
  | nil => exact .inl clear_nil
  | append_singleton init c ih =>
    obtain clear | ⟨read, rest, rfl, completes⟩ := ih
    · by_cases ends : delimiter <:+ buffer ++ (init ++ [c])
      · exact .inr ⟨init ++ [c], [], by simp, completes_concat_iff.mpr ⟨clear, ends⟩⟩
      · refine .inl fun read some inside => ?_
        rcases List.prefix_concat_iff.mp inside with rfl | shorter
        · exact ends
        · exact clear read some shorter
    · exact .inr ⟨read, rest ++ [c], by simp, completes⟩

/-- Comparing the last character and looking for the others in the buffer is looking for the whole
delimiter at the end of the longer buffer. -/
theorem stops_iff : c = stopper ∧ endsWith back head = true ↔
    head ++ [stopper] <:+ back.reverse ++ [c] := by
  rw [endsWith_iff]
  constructor
  · rintro ⟨rfl, before, whole⟩
    exact ⟨before, by rw [← List.append_assoc, whole]⟩
  · rintro ⟨before, whole⟩
    rw [← List.append_assoc] at whole
    obtain ⟨same, last⟩ := List.append_inj' whole rfl
    exact ⟨(List.cons.inj last).1.symm, before, same⟩

theorem readTo_of_clear (clear : Clear (head ++ [stopper]) back.reverse cs) (line : Nat)
    (rest : List Char) : readTo head stopper back line (cs ++ rest) =
      readTo head stopper (cs.reverse ++ back) (line + cs.count '\n') rest := by
  induction cs generalizing back line with
  | nil => rfl
  | cons c cs ih =>
    obtain ⟨open_end, clear⟩ := clear_cons_iff.mp clear
    rw [← List.reverse_cons] at clear
    rw [List.cons_append, readTo, if_neg (fun stops => open_end (stops_iff.mp stops)), ih clear,
      Reader.counted_line, Nat.add_assoc, ← List.count_append, List.singleton_append]
    simp

theorem readTo_of_completes (completes : Completes (head ++ [stopper]) back.reverse read)
    (line : Nat) (rest : List Char) : ∃ text, back.reverse ++ read = text ++ (head ++ [stopper]) ∧
      readTo head stopper back line (read ++ rest) =
        ⟨true, text.reverse, rest, line + read.count '\n'⟩ := by
  obtain ⟨scanned, c, rfl⟩ : ∃ scanned c, read = scanned ++ [c] :=
    ⟨_, _, (List.dropLast_concat_getLast completes.some).symm⟩
  obtain ⟨text, whole⟩ := completes.ends
  have buffered : (scanned.reverse ++ back).reverse ++ [c] = back.reverse ++ (scanned ++ [c]) := by
    simp
  have stops := stops_iff.mpr (buffered ▸ completes.ends)
  have before : scanned.reverse ++ back = head.reverse ++ text.reverse := by
    rw [← List.append_assoc, ← List.append_assoc] at whole
    rw [← List.reverse_append, (List.append_inj' whole rfl).1]
    simp
  refine ⟨text, whole.symm, ?_⟩
  rw [List.append_assoc, readTo_of_clear (completes_concat_iff.mp completes).1,
    List.singleton_append, readTo, if_pos stops, Reader.counted_line, before,
    ← List.length_reverse, List.drop_left, Nat.add_assoc, ← List.count_append]

/-- What one more character makes of a buffer, by its comparison with the last character. -/
theorem push_eq : push (head ++ [stopper]) back c =
    if c = stopper ∧ endsWith back head then .found (back.drop head.length)
    else .pending (c :: back) := by
  have same : endsWith (c :: back) (head ++ [stopper]) = true ↔
      c = stopper ∧ endsWith back head = true := by
    rw [endsWith_iff, List.reverse_cons, stops_iff]
  simp only [push, same, List.length_append, List.length_singleton, List.drop_succ_cons]

theorem readUntil_eq_readTo (some : delimiter ≠ []) : ∃ head stopper,
    delimiter = head ++ [stopper] ∧ readUntil delimiter = readTo head stopper := by
  refine ⟨_, _, (List.dropLast_concat_getLast some).symm, ?_⟩
  funext back line cs
  rw [readUntil, List.getLast?_eq_some_getLast some]

/-- Behind a buffer that is empty, a delimiter is completed where it first occurs. -/
theorem completes_of_leftmost {before rest : List Char} (nonempty : delimiter ≠ [])
    (leftmost : ∀ before' rest', before ++ delimiter ++ rest = before' ++ delimiter ++ rest' →
      before.length ≤ before'.length) : Completes delimiter [] (before ++ delimiter) := by
  refine ⟨List.append_ne_nil_of_right_ne_nil before nonempty, List.suffix_append _ _, ?_⟩
  rintro early - ⟨after, whole⟩ ⟨before', ends⟩
  rw [List.nil_append] at ends
  have later := leftmost before' (after ++ rest) (by simp [← whole, ← ends])
  have lengths := congrArg List.length whole
  have nothing : after = [] := by
    simp only [← ends, List.length_append] at lengths
    exact List.length_eq_zero_iff.mp (by omega)
  rw [← whole, nothing, List.append_nil]

end Scan

namespace Reader

variable {r : Reader}

/-- What a reader that looks for a delimiter does when it has found it, with the characters before
it, last first. -/
def complete (r : Reader) (back : List Char) : Except Stop Reader :=
  match r.place with
  | .text => .ok { r with place := .opened, back := [], siblings := withText back r.siblings }
  | .opened => .ok r
  | .tag => r.closeTag back
  | .rawTag => r.closeRaw back

theorem take_of_found {c : Char} {back : List Char} (looking : r.place ≠ .opened)
    (found : Scan.push r.sought r.back c = .found back) : r.take c = r.complete back := by
  unfold sought at found
  unfold take complete
  cases here : r.place <;> simp_all

/-- What a complete tag does depends on its characters, not on what has been buffered. -/
theorem closeTag_of_tag (r : Reader) (place : Place) (buffer back : List Char) :
    ({ r with place := place, back := buffer } : Reader).closeTag back = r.closeTag back := by
  unfold closeTag
  cases Tag.ofBody (Text.trim back.reverse) with
  | error flaw => rfl
  | ok tag => cases tag <;> rfl

theorem complete_of_back (looking : r.place ≠ .opened) (buffer back : List Char) :
    ({ r with back := buffer } : Reader).complete back = r.complete back := by
  unfold complete
  cases here : r.place with
  | text => rfl
  | opened => exact (looking here).elim
  | tag => exact closeTag_of_tag r r.place buffer back
  | rawTag =>
    simp only [closeRaw]
    cases Text.trim back.reverse <;> rfl

/-- A reader goes on after a search for a delimiter. -/
def resume (r : Reader) (reading : Scan.Reading) : Except Stop Reader :=
  if reading.found then do
    let next ← ({ r with line := reading.line } : Reader).complete reading.back
    next.run reading.rest
  else .ok { r with back := reading.back, line := reading.line }

/-- What a search leaves behind does not depend on what was buffered, or on the line, before it. -/
theorem resume_of_buffered (looking : r.place ≠ .opened) (buffer : List Char) (line : Nat)
    (reading : Scan.Reading) :
    ({ r with back := buffer, line := line } : Reader).resume reading = r.resume reading := by
  have same := complete_of_back (r := { r with line := reading.line }) looking buffer reading.back
  unfold resume
  rw [same]

/-- A reader that looks for a delimiter searches for it and acts on what it has found. -/
theorem run_eq_readUntil (looking : r.place ≠ .opened) (nonempty : r.sought ≠ [])
    (cs : List Char) :
    r.run cs = r.resume (Scan.readUntil r.sought r.back r.line cs) := by
  obtain ⟨head, stopper, split, eq⟩ := Scan.readUntil_eq_readTo nonempty
  rw [eq]
  clear eq nonempty
  induction cs generalizing r with
  | nil => rfl
  | cons c rest ih =>
    let counted : Reader := { r with line := if c = '\n' then r.line + 1 else r.line }
    have stepped : r.step c = counted.take c := rfl
    have pushed := @Scan.push_eq head r.back stopper c
    rw [← split] at pushed
    by_cases stops : c = stopper ∧ Scan.endsWith r.back head = true
    · rw [if_pos stops] at pushed
      rw [run, stepped, take_of_found (r := counted) looking pushed, Scan.readTo, if_pos stops,
        resume, if_pos rfl]
      cases counted.complete (r.back.drop head.length) <;> rfl
    · rw [if_neg stops] at pushed
      rw [run, stepped, take_of_pending (r := counted) looking pushed, Scan.readTo, if_neg stops]
      exact (ih (r := { counted with back := c :: r.back }) looking split).trans
        (resume_of_buffered looking _ _ _)

end Reader

namespace Scan

section Searching

variable {delimiter buffer cs read : List Char} (nonempty : delimiter ≠ [])
include nonempty

/-- A search ends with the shortest text that completes the delimiter. -/
theorem readUntil_of_completes (completes : Completes delimiter buffer read) (line : Nat)
    (rest : List Char) : ∃ text, buffer ++ read = text ++ delimiter ∧
      readUntil delimiter buffer.reverse line (read ++ rest) =
        ⟨true, text.reverse, rest, line + read.count '\n'⟩ := by
  obtain ⟨head, stopper, rfl, eq⟩ := readUntil_eq_readTo nonempty
  rw [← buffer.reverse_reverse] at completes
  have found := readTo_of_completes completes line rest
  rwa [buffer.reverse_reverse, ← eq] at found

/-- A search takes in everything if nothing completes the delimiter. -/
theorem readUntil_of_clear (clear : Clear delimiter buffer cs) (line : Nat) :
    readUntil delimiter buffer.reverse line cs =
      ⟨false, (buffer ++ cs).reverse, [], line + cs.count '\n'⟩ := by
  obtain ⟨head, stopper, rfl, eq⟩ := readUntil_eq_readTo nonempty
  rw [← buffer.reverse_reverse] at clear
  have scanned := readTo_of_clear clear line []
  rw [List.append_nil, readTo, ← List.reverse_append] at scanned
  rw [eq, scanned]

theorem found_readUntil_iff (line : Nat) :
    (readUntil delimiter buffer.reverse line cs).found = true ↔
      ∃ read, read ≠ [] ∧ read <+: cs ∧ delimiter <:+ buffer ++ read := by
  constructor
  · intro found
    by_contra none
    have clear : Clear delimiter buffer cs := fun read some inside ends =>
      none ⟨read, some, inside, ends⟩
    rw [readUntil_of_clear nonempty clear] at found
    cases found
  · rintro ⟨read, some, inside, ends⟩
    obtain clear | ⟨first, rest, rfl, completes⟩ := clear_or_completes delimiter buffer cs
    · exact (clear read some inside ends).elim
    · obtain ⟨text, _, eq⟩ := readUntil_of_completes nonempty completes line rest
      rw [eq]

/-- A search ends with the shortest text that completes the delimiter behind the buffer, which may
hold the start of it, and if there is none it takes in everything. With nothing buffered it ends
at the leftmost occurrence. The buffer is cut between two characters, and a reader that looks for a
delimiter goes on as this search ends. -/
theorem readUntil_finds_leftmost (buffer cs : List Char) (line : Nat) :
    ((readUntil delimiter buffer.reverse line cs).found = true ↔
      ∃ read, read ≠ [] ∧ read <+: cs ∧ delimiter <:+ buffer ++ read) ∧
    (∀ read rest, cs = read ++ rest → Completes delimiter buffer read →
      ∃ text, buffer ++ read = text ++ delimiter ∧
        readUntil delimiter buffer.reverse line cs =
          ⟨true, text.reverse, rest, line + read.count '\n'⟩ ∧
        let written := (text ++ delimiter.dropLast).utf8Encode
        written.extract 0 (written.size - delimiter.dropLast.utf8Encode.size) =
          text.utf8Encode) ∧
    ((readUntil delimiter buffer.reverse line cs).found = false →
      readUntil delimiter buffer.reverse line cs =
        ⟨false, (buffer ++ cs).reverse, [], line + cs.count '\n'⟩) ∧
    ((readUntil delimiter [] line cs).found = true ↔ delimiter <:+: cs) ∧
    (∀ before rest, cs = before ++ delimiter ++ rest →
      (∀ before' rest', cs = before' ++ delimiter ++ rest' → before.length ≤ before'.length) →
      readUntil delimiter [] line cs =
        ⟨true, before.reverse, rest, line + (before ++ delimiter).count '\n'⟩) ∧
    ∀ r : Reader, r.place ≠ .opened → r.sought = delimiter →
      r.run cs = r.resume (readUntil delimiter r.back r.line cs) := by
  refine ⟨found_readUntil_iff nonempty line, ?_, ?_, ?_, ?_, ?_⟩
  · rintro read rest rfl completes
    obtain ⟨text, whole, eq⟩ := readUntil_of_completes nonempty completes line rest
    refine ⟨text, whole, eq, ?_⟩
    simpa [List.utf8Encode_append] using ByteArray.extract_append_eq_left rfl
  · intro open_end
    obtain clear | ⟨read, rest, rfl, completes⟩ := clear_or_completes delimiter buffer cs
    · exact readUntil_of_clear nonempty clear line
    · obtain ⟨text, _, eq⟩ := readUntil_of_completes nonempty completes line rest
      rw [eq] at open_end
      cases open_end
  · rw [← List.reverse_nil, found_readUntil_iff nonempty, List.infix_iff_suffix_prefix]
    constructor
    · rintro ⟨read, -, inside, ends⟩
      exact ⟨read, ends, inside⟩
    · rintro ⟨read, ends, inside⟩
      refine ⟨read, ?_, inside, ends⟩
      rintro rfl
      exact nonempty (List.suffix_nil.mp ends)
  · rintro before rest rfl leftmost
    have completes := completes_of_leftmost nonempty leftmost
    obtain ⟨text, whole, eq⟩ := readUntil_of_completes nonempty completes line rest
    obtain rfl := List.append_cancel_right (List.nil_append _ ▸ whole)
    exact eq
  · rintro r looking rfl
    exact Reader.run_eq_readUntil looking nonempty cs

end Searching

/-- In a run of braces the first three are found, whether they come at once or one of them has been
buffered. -/
theorem readUntil_finds_leftmost_braces :
    ['}', '}', '}'] ≠ [] ∧
      readUntil ['}', '}', '}'] [] 1 ['é', '}', '}', '}', '}', '\n'] =
        ⟨true, ['é'], ['}', '\n'], 1⟩ ∧
      readUntil ['}', '}', '}'] ['}', 'é'] 1 ['}', '}', '}', '\n'] =
        ⟨true, ['é'], ['}', '\n'], 1⟩ := by
  have some : ['}', '}', '}'] ≠ [] := List.cons_ne_nil _ _
  obtain ⟨-, -, -, -, leftmost, -⟩ :=
    readUntil_finds_leftmost some [] ['é', '}', '}', '}', '}', '\n'] 1
  obtain ⟨-, shortest, -⟩ := readUntil_finds_leftmost some ['é', '}'] ['}', '}', '}', '\n'] 1
  have completes : Completes ['}', '}', '}'] ['é', '}'] ['}', '}'] := by
    have all : ∀ early ∈ ['}', '}'].inits, early ≠ [] →
        ['}', '}', '}'] <:+ ['é', '}'] ++ early → early = ['}', '}'] := by decide
    refine ⟨by decide, by decide, fun early nonempty inside => ?_⟩
    exact all early ((List.mem_inits _ _).mpr inside) nonempty
  obtain ⟨text, whole, eq, -⟩ := shortest ['}', '}'] ['}', '\n'] rfl completes
  obtain rfl : ['é'] = text :=
    List.append_cancel_right (whole : ['é'] ++ ['}', '}', '}'] = _)
  refine ⟨some, leftmost ['é'] ['}', '\n'] rfl fun before rest same => ?_, eq⟩
  cases before with
  | nil => cases same
  | cons c before => exact Nat.succ_le_succ (Nat.zero_le _)

end Scan

end Mustache
