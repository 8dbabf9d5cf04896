/-!
Looking for a delimiter. Characters are buffered one at a time, last first, and the delimiter is
compared with the end of the buffer, so that it may begin in what was buffered before.
-/
namespace Mustache.Scan

/-- Whether a buffer, last character first, ends with a delimiter. -/
def endsWith (back delimiter : List Char) : Bool := delimiter.reverse.isPrefixOf back

/-- What one more character makes of a buffer. -/
inductive Progress where
  /-- The delimiter is complete; the buffer is what stood before it. -/
  | found (back : List Char)
  /-- The delimiter is not complete yet. -/
  | pending (back : List Char)
deriving DecidableEq, Repr

/-- Buffers a character and looks for the delimiter at the end. -/
def push (delimiter back : List Char) (c : Char) : Progress :=
  if endsWith (c :: back) delimiter then .found ((c :: back).drop delimiter.length)
  else .pending (c :: back)

/-- What a search for a delimiter leaves behind. -/
structure Reading where
  /-- Whether the delimiter came. -/
  found : Bool
  /-- The buffer, last character first, without the delimiter. -/
  back : List Char
  /-- The characters that have not been read. -/
  rest : List Char
  /-- The line on which the search ended. -/
  line : Nat
deriving DecidableEq, Repr

/-- Buffers characters up to one that completes a delimiter. Only the last character of the
delimiter is compared with what is read; those before it are looked for at the end of the buffer,
which is cut by as many. -/
def readTo (head : List Char) (stopper : Char) :
    (back : List Char) → (line : Nat) → List Char → Reading
  | back, line, [] => ⟨false, back, [], line⟩
  | back, line, c :: rest =>
    let line := if c = '\n' then line + 1 else line
    if c = stopper ∧ endsWith back head then ⟨true, back.drop head.length, rest, line⟩
    else readTo head stopper (c :: back) line rest

/-- Buffers characters up to and including a delimiter. The empty one is found at once. -/
def readUntil (delimiter back : List Char) (line : Nat) (cs : List Char) : Reading :=
  match delimiter.getLast? with
  | none => ⟨true, back, cs, line⟩
  | some stopper => readTo delimiter.dropLast stopper back line cs

end Mustache.Scan
