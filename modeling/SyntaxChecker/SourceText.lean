import SyntaxChecker.Fault

/-!
# From bytes to text

A source file is a sequence of bytes, and its text is what a reader sees of it.
Three things separate the two. The bytes are the UTF-8 encoding of the text, in
its strict form: whatever does not arise by encoding is refused. The encoding
may be introduced by a byte-order mark, which belongs to neither; a file that
holds only the beginning of a mark holds no text. And a line may be ended by
the characters carriage return and line feed, or by either of them alone; the
text has line feeds only (`return_not_mem_unifyLineEnds`).
-/

namespace SyntaxChecker.SourceText

/-! ## Line ends -/

/-- Put a line feed for every line end, where a carriage return and the line
feed after it are one. -/
def unifyLineEnds : List Char → List Char
  | [] => []
  | '\r' :: '\n' :: rest => '\n' :: unifyLineEnds rest
  | c :: rest => (if c = '\r' then '\n' else c) :: unifyLineEnds rest

/-- **No carriage return is left.** -/
theorem return_not_mem_unifyLineEnds (s : List Char) : '\r' ∉ unifyLineEnds s := by
  fun_induction unifyLineEnds s with
  | case1 => simp
  | case2 rest ih => simpa using ih
  | case3 c rest _ ih =>
    intro h
    rcases List.mem_cons.1 h with h | h
    · split at h
      · cases h
      · next hc => exact hc h.symm
    · exact ih h

/-! ## Bytes -/

/-- The byte-order mark in UTF-8. -/
def byteOrderMark : List UInt8 := [0xef, 0xbb, 0xbf]

/-- Whether the bytes are a byte-order mark that was cut off. -/
def isCutMark (bytes : List UInt8) : Bool :=
  !bytes.isEmpty && bytes.length < byteOrderMark.length && bytes.isPrefixOf byteOrderMark

/-- The bytes without the byte-order mark that introduces them, if one does. -/
def dropMark (bytes : List UInt8) : List UInt8 :=
  if byteOrderMark.isPrefixOf bytes then bytes.drop byteOrderMark.length else bytes

/-- The text that bytes are the encoding of. -/
def decode? (bytes : List UInt8) : Option String := String.fromUTF8? ⟨bytes.toArray⟩

/-- The text of a file with the given bytes. -/
def ofBytes? (bytes : List UInt8) : Option String :=
  if isCutMark bytes then some ""
  else (decode? (dropMark bytes)).map fun s => String.ofList (unifyLineEnds s.toList)

/-! ## Files -/

/-- What can be read by name: the bytes of a file, or why it cannot be
opened. -/
abbrev Reader := String → Except OpenFault (List UInt8)

/-- The text of the file with that name. -/
def load (read : Reader) (path : String) : Except Fault String :=
  match read path with
  | .error f => .error (.unopened f path)
  | .ok bytes =>
    match ofBytes? bytes with
    | none => .error .undecodable
    | some text => .ok text

end SyntaxChecker.SourceText
