import Mathlib
import Mustache.Proofs.Render.Agreement
import Mustache.Render.Writer
/-!
Writing without limits. A writer that takes everything never fails, and what has been written is the
UTF-8 encoding of the characters sent. Main statement: a template that is streamed into such a
writer leaves the encoding of the text that it renders, and completes exactly if rendering does.
-/
namespace Mustache

namespace Writer

/-- One attempt to write what is left. -/
theorem writeAll_cons (limits : WriterLimits) (byte : UInt8) (rest : List UInt8) (attempts : Nat)
    (w : Writer) : writeAll limits (byte :: rest) (attempts + 1) w =
      match taken? limits w.bytes.size (byte :: rest).length with
      | none => .error .writeRefused w
      | some 0 => .error .wroteNothing w
      | some n => writeAll limits ((byte :: rest).drop n) attempts
        { w with bytes := ((byte :: rest).take n).foldl ByteArray.push w.bytes } := rfl

theorem writeAll_nil (limits : WriterLimits) (attempts : Nat) (w : Writer) :
    writeAll limits [] attempts w = .ok () w := by
  cases attempts <;> rfl

theorem taken?_unlimited (written offered : Nat) :
    taken? {} written (offered + 1) = some (offered + 1) := by
  unfold taken?
  dsimp only
  rw [if_neg (Nat.succ_ne_zero offered)]
  simp

theorem foldl_push (bytes : List UInt8) (written : ByteArray) :
    bytes.foldl ByteArray.push written = written ++ bytes.toByteArray := by
  induction bytes generalizing written with
  | nil => simp
  | cons byte rest ih =>
    have first : (byte :: rest).toByteArray = [byte].toByteArray ++ rest.toByteArray := by
      rw [← List.toByteArray_append, List.singleton_append]
    rw [List.foldl_cons, ih, first, ← ByteArray.append_assoc,
      ByteArray.append_toByteArray_singleton]

/-- A writer without limits takes all bytes at once. -/
theorem writeAll_unlimited (bytes : List UInt8) (w : Writer) :
    writeAll {} bytes bytes.length w = .ok () { w with bytes := w.bytes ++ bytes.toByteArray } := by
  cases bytes with
  | nil => simp [writeAll_nil]
  | cons byte rest =>
    have all : taken? {} w.bytes.size (byte :: rest).length = some (rest.length + 1) :=
      taken?_unlimited _ _
    have taken : (byte :: rest).take (rest.length + 1) = byte :: rest :=
      List.take_of_length_le (Nat.le_refl _)
    have left : (byte :: rest).drop (rest.length + 1) = [] := by simp
    have once : writeAll {} (byte :: rest) (rest.length + 1) w =
        writeAll {} ((byte :: rest).drop (rest.length + 1)) rest.length
          { w with
            bytes := ((byte :: rest).take (rest.length + 1)).foldl ByteArray.push w.bytes } := by
      rw [writeAll_cons, all]
      rfl
    rw [List.length_cons, once, left, taken, writeAll_nil, foldl_push]

theorem send_unlimited (c : Char) (w : Writer) :
    (sink {}).send c w = .ok () { w with bytes := w.bytes ++ [c].utf8Encode } := by
  rw [List.utf8Encode_singleton]
  exact writeAll_unlimited (String.utf8EncodeChar c) w

/-- Calls on a writer without limits append the encoding of the characters they send. -/
theorem performAll_unlimited (calls : List SinkCall) (w : Writer) :
    ∃ last, (sink {}).performAll calls w = .ok () last ∧
      last.bytes = w.bytes ++ (SinkCall.sent calls).utf8Encode := by
  induction calls generalizing w with
  | nil => exact ⟨w, rfl, by simp [SinkCall.sent]⟩
  | cons call rest ih =>
    simp only [Sink.performAll, Bind.bind, EStateM.bind]
    cases call with
    | send c =>
      obtain ⟨last, performed, bytes⟩ := ih { w with bytes := w.bytes ++ [c].utf8Encode }
      have sent : (sink {}).perform (.send c) w = _ := send_unlimited c w
      refine ⟨last, by rw [sent]; exact performed, ?_⟩
      rw [bytes, SinkCall.sent, List.utf8Encode_cons (l := SinkCall.sent rest),
        ByteArray.append_assoc]
    | ready => exact ih w
    | flush => exact ih { w with flushes := w.bytes.size :: w.flushes }
    | close => exact ih { w with flushes := w.bytes.size :: w.flushes }
    | remark line => exact ih { w with remarks := line :: w.remarks }

theorem unlimited_neverFails (w : Writer) : (sink {}).NeverFails w := by
  intro calls
  obtain ⟨last, performed, _⟩ := performAll_unlimited calls w
  exact ⟨last, performed⟩

end Writer

theorem SinkCall.sent_append (calls calls' : List SinkCall) :
    sent (calls ++ calls') = sent calls ++ sent calls' := by
  induction calls with
  | nil => rfl
  | cons call rest ih => cases call <;> simp [sent, ih]

namespace Library

/-- Streaming into a writer without limits and rendering into a text both complete, with the same
characters, or both run out of fuel. -/
theorem stream_unlimited (lib : Library) (fuel : Nat) (t : Template) (context : Context) :
    (∃ text w, lib.render fuel t context = some text ∧
      lib.stream fuel (Writer.sink {}) t context {} = .ok () w ∧ w.bytes = text.toUTF8) ∨
    ∃ w, lib.render fuel t context = none ∧
      lib.stream fuel (Writer.sink {}) t context {} = .error .exhausted w := by
  rcases stream_calls lib fuel t context (Writer.unlimited_neverFails {}) with
    ⟨calls, w, noted, performed, streamed⟩ | ⟨w, none, streamed⟩
  · refine .inl ⟨"" ++ String.ofList (SinkCall.sent calls), w, ?_, streamed, ?_⟩
    · rw [render, renderOnto_calls, noted, Option.map_some]
    · obtain ⟨w', performed', bytes⟩ := Writer.performAll_unlimited (calls ++ [.flush]) {}
      rw [performed] at performed'
      cases performed'
      simp [bytes, SinkCall.sent_append, SinkCall.sent]
  · refine .inr ⟨w, ?_, streamed⟩
    rw [render, renderOnto_calls, none, Option.map_none]

/-- A stream into a writer without limits leaves the encoding of what the template renders. -/
theorem stream_of_render {lib : Library} {fuel : Nat} {t : Template} {context : Context}
    {out : String} (rendered : lib.render fuel t context = some out) :
    ∃ w, lib.stream fuel (Writer.sink {}) t context {} = .ok () w ∧ w.bytes = out.toUTF8 := by
  rcases lib.stream_unlimited fuel t context with ⟨text, w, same, streamed, bytes⟩ | ⟨_, none, _⟩
  · obtain rfl : out = text := Option.some.inj (rendered.symm.trans same)
    exact ⟨w, streamed, bytes⟩
  · rw [rendered] at none
    cases none

end Library

end Mustache
