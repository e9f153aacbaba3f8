import SyntaxChecker.Check

/-!
# Loading is exact, and blind to how lines end

What a file holds and what is checked are related in both directions: a text is
loaded from exactly those bytes that encode some characters, behind a
byte-order mark or without one, and is these characters with a line feed for
every line end (`load_exact`). So a text that has line feeds only can be kept
in six ways – three line ends, with a mark and without – and nothing that
happens after loading can tell one from another.

Three places need care. A mark is dropped *once*, so that a text may begin with
the character that the mark encodes only if a mark is in front of it. A mark
that was cut off is no encoding of anything, and yet it is read, as no text:
the bytes `EF` and `EF BB` are the only ones outside the rule. And a carriage
return belongs to the line feed behind it, which is why the two replacements
are made in this order – first the pairs, then what is left.
-/

namespace SyntaxChecker.SourceText

/-! ## Line ends

`unifyLineEnds` makes one pass; here are the two passes that say what it does. -/

/-- Put a line feed for every carriage return that has one behind it. -/
def joinPairs : List Char → List Char
  | [] => []
  | '\r' :: '\n' :: rest => '\n' :: joinPairs rest
  | c :: rest => c :: joinPairs rest

/-- Put a line feed for every carriage return. -/
def feedReturns (s : List Char) : List Char := s.map fun c => if c = '\r' then '\n' else c

/-- **One pass does what the two do.** -/
theorem unifyLineEnds_eq (s : List Char) : unifyLineEnds s = feedReturns (joinPairs s) := by
  fun_induction unifyLineEnds s with
  | case1 => rfl
  | case2 rest ih => rw [joinPairs, ih]; rfl
  | case3 c rest h ih => rw [joinPairs.eq_3 c rest h, ih]; rfl

/-- A way to end a line. -/
inductive LineEnd where
  /-- A line feed. -/
  | lineFeed
  /-- A carriage return and a line feed. -/
  | pair
  /-- A carriage return. -/
  | carriageReturn
  deriving DecidableEq, Repr

namespace LineEnd

/-- What ends a line. -/
def chars : LineEnd → List Char
  | lineFeed => ['\n']
  | pair => ['\r', '\n']
  | carriageReturn => ['\r']

/-- The characters, with that way to end a line wherever a line ends. -/
def write (e : LineEnd) (s : List Char) : List Char :=
  s.flatMap fun c => if c = '\n' then e.chars else [c]

/-- A text of lines begins as they do, whatever ends them: a line end is no
mark. -/
theorem mark_isPrefix_write {e : LineEnd} {s : List Char} (h : ['\ufeff'] <+: e.write s) :
    ['\ufeff'] <+: s := by
  cases s with
  | nil => exact h
  | cons c rest =>
    by_cases hc : c = '\n'
    · cases e <;> simp [write, chars, hc] at h
    · simpa [write, hc] using h

end LineEnd

/-- What follows a character that is no carriage return has no part in it. -/
theorem unifyLineEnds_cons {c : Char} (hc : c ≠ '\r') (s : List Char) :
    unifyLineEnds (c :: s) = c :: unifyLineEnds s := by
  rw [unifyLineEnds.eq_3 c s fun _ h _ => hc h, if_neg hc]

/-- A carriage return ends a line alone, unless a line feed is behind it. -/
theorem unifyLineEnds_return {s : List Char} (h : ¬ ['\n'] <+: s) :
    unifyLineEnds ('\r' :: s) = '\n' :: unifyLineEnds s := by
  rw [unifyLineEnds.eq_3 '\r' s fun rest _ hs => h ⟨rest, hs.symm⟩, if_pos rfl]

/-- Carriage returns alone leave no line feed that one of them could be taken
together with. -/
theorem lineFeed_not_mem_write (s : List Char) : '\n' ∉ LineEnd.carriageReturn.write s := by
  intro h
  obtain ⟨c, -, hc⟩ := List.mem_flatMap.1 h
  split at hc
  · simp [LineEnd.chars] at hc
  · next hne => exact hne (List.mem_singleton.1 hc).symm

/-- **A text comes back, however its lines are ended.** -/
theorem unifyLineEnds_write (e : LineEnd) {s : List Char} (hs : '\r' ∉ s) :
    unifyLineEnds (e.write s) = s := by
  induction s with
  | nil => rfl
  | cons c rest ih =>
    obtain ⟨hc, hrest⟩ : '\r' ≠ c ∧ '\r' ∉ rest := by simpa using hs
    by_cases hfeed : c = '\n'
    · subst hfeed
      have hwrite : e.write ('\n' :: rest) = e.chars ++ e.write rest := rfl
      rw [hwrite]
      cases e with
      | lineFeed =>
        rw [show LineEnd.lineFeed.chars = ['\n'] from rfl, List.singleton_append,
          unifyLineEnds_cons (by decide), ih hrest]
      | pair =>
        show '\n' :: unifyLineEnds (LineEnd.pair.write rest) = _
        rw [ih hrest]
      | carriageReturn =>
        have hno : ¬ ['\n'] <+: LineEnd.carriageReturn.write rest := fun h =>
          lineFeed_not_mem_write rest (h.subset (List.mem_singleton_self _))
        rw [show LineEnd.carriageReturn.chars = ['\r'] from rfl, List.singleton_append,
          unifyLineEnds_return hno, ih hrest]
    · have hwrite : e.write (c :: rest) = c :: e.write rest := by
        simp [LineEnd.write, hfeed]
      rw [hwrite, unifyLineEnds_cons (Ne.symm hc), ih hrest]

/-! ## Bytes -/

/-- The bytes of characters in UTF-8: one after the other, each in its shortest
form. -/
def encoded (s : List Char) : List UInt8 := s.flatMap String.utf8EncodeChar

theorem toByteArray_encoded (s : List Char) : (encoded s).toByteArray = s.utf8Encode := rfl

/-- **Decoding is the inverse of encoding**, and refuses whatever is no
encoding. -/
theorem decode?_eq_some_iff {bytes : List UInt8} {text : String} :
    decode? bytes = some text ↔ encoded text.toList = bytes := by
  have hbytes : (⟨bytes.toArray⟩ : ByteArray) = bytes.toByteArray :=
    ByteArray.ext List.data_toByteArray.symm
  have hencoded : encoded text.toList = bytes ↔ text.toByteArray = bytes.toByteArray := by
    rw [← String.utf8Encode_toList, ← toByteArray_encoded, List.toByteArray_inj]
  rw [hencoded, decode?, hbytes, String.fromUTF8?]
  constructor
  · intro h
    split at h
    · cases h; rfl
    · cases h
  · intro h
    have hvalid : bytes.toByteArray.IsValidUTF8 := h ▸ text.isValidUTF8
    rw [dif_pos hvalid, Option.some_inj, ← String.toByteArray_inj]
    exact h.symm

/-- The mark is a character's encoding, so an encoding that begins with the
mark begins with that character. -/
theorem mark_isPrefix_of_encoded {s : List Char} (h : byteOrderMark <+: encoded s) :
    ['\ufeff'] <+: s := by
  obtain ⟨rest, hrest⟩ := h
  refine List.isPrefix_of_utf8Encode_append_eq_utf8Encode rest.toByteArray ?_
  rw [← toByteArray_encoded, ← toByteArray_encoded, ← List.toByteArray_append]
  exact congrArg List.toByteArray hrest

/-- The two ways to cut a mark off. -/
theorem isCutMark_iff {bytes : List UInt8} :
    isCutMark bytes = true ↔ bytes = [0xef] ∨ bytes = [0xef, 0xbb] := by
  match bytes with
  | [] => simp [isCutMark]
  | [a] => simp [isCutMark, byteOrderMark]
  | [a, b] => simp [isCutMark, byteOrderMark]
  | a :: b :: c :: rest =>
    have hlong : ¬ rest.length + 1 + 1 + 1 < 3 := by omega
    simp [isCutMark, byteOrderMark, hlong]

/-- No characters are encoded by a mark that was cut off: its first byte
announces three. -/
theorem isCutMark_encoded (s : List Char) : isCutMark (encoded s) = false := by
  rw [Bool.eq_false_iff]
  intro h
  have hvalid : ByteArray.validateUTF8 (encoded s).toByteArray = true := by
    rw [ByteArray.validateUTF8_eq_true_iff]
    exact ByteArray.isValidUTF8_utf8Encode
  rcases isCutMark_iff.1 h with h | h <;> rw [h] at hvalid <;> revert hvalid <;> decide

theorem dropMark_append (bytes : List UInt8) : dropMark (byteOrderMark ++ bytes) = bytes := by
  rw [dropMark, if_pos (by simp), List.drop_left]

theorem dropMark_encoded {s : List Char} (h : ¬ ['\ufeff'] <+: s) :
    dropMark (encoded s) = encoded s := by
  rw [dropMark, if_neg]
  rw [List.isPrefixOf_iff_prefix]
  exact fun hmark => h (mark_isPrefix_of_encoded hmark)

/-- **The text of bytes.** -/
theorem ofBytes?_eq_some_iff {bytes : List UInt8} {text : String} :
    ofBytes? bytes = some text
      ↔ (∃ s, encoded s = dropMark bytes ∧ text = String.ofList (feedReturns (joinPairs s)))
        ∨ (bytes = [0xef] ∨ bytes = [0xef, 0xbb]) ∧ text = "" := by
  rw [ofBytes?]
  by_cases hcut : isCutMark bytes = true
  · have hkept : dropMark bytes = bytes := by
      rcases isCutMark_iff.1 hcut with rfl | rfl <;> rfl
    have hnone (s : List Char) : encoded s ≠ dropMark bytes := fun h => by
      rw [hkept] at h
      rw [← h, isCutMark_encoded] at hcut
      cases hcut
    simp [hcut, isCutMark_iff.1 hcut, hnone, eq_comm]
  · rw [if_neg hcut, Option.map_eq_some_iff]
    constructor
    · rintro ⟨t, ht, htext⟩
      exact .inl ⟨t.toList, decode?_eq_some_iff.1 ht, by rw [← htext, unifyLineEnds_eq]⟩
    · rintro (⟨s, hs, htext⟩ | ⟨hbytes, -⟩)
      · refine ⟨String.ofList s, decode?_eq_some_iff.2 ?_, ?_⟩
        · rwa [String.toList_ofList]
        · rw [String.toList_ofList, unifyLineEnds_eq, htext]
      · exact absurd (isCutMark_iff.2 hbytes) hcut

/-! ## Files -/

/-- What a file may hold for a text to be in it: the lines ended in one way,
behind a mark or – where the text could not be mistaken for marked – without
one. -/
inductive Holds (s : List Char) : List UInt8 → Prop
  | marked (e : LineEnd) : Holds s (byteOrderMark ++ encoded (e.write s))
  | plain (e : LineEnd) : ¬ ['\ufeff'] <+: s → Holds s (encoded (e.write s))

/-- Nothing but the text is read back from what holds it. -/
theorem Holds.ofBytes? {s : List Char} {bytes : List UInt8} (h : Holds s bytes) (hs : '\r' ∉ s) :
    ofBytes? bytes = some (String.ofList s) := by
  have hread (e : LineEnd) : String.ofList s
      = String.ofList (feedReturns (joinPairs (e.write s))) := by
    rw [← unifyLineEnds_eq, unifyLineEnds_write e hs]
  cases h with
  | marked e => exact ofBytes?_eq_some_iff.2 (.inl ⟨_, (dropMark_append _).symm, hread e⟩)
  | plain e hno =>
    have hno' : ¬ ['\ufeff'] <+: e.write s := fun h => hno (LineEnd.mark_isPrefix_write h)
    exact ofBytes?_eq_some_iff.2 (.inl ⟨_, (dropMark_encoded hno').symm, hread e⟩)

variable {read : Reader} {path : String} {bytes : List UInt8}

theorem load_eq_ok_iff (hread : read path = .ok bytes) {text : String} :
    load read path = .ok text ↔ ofBytes? bytes = some text := by
  rw [load, hread]
  rcases hbytes : ofBytes? bytes with _ | t <;> simp [hbytes]

theorem load_eq_undecodable (hread : read path = .ok bytes)
    (hno : ∀ text, load read path ≠ .ok text) : load read path = .error .undecodable := by
  have hnone : ofBytes? bytes = none :=
    Option.eq_none_iff_forall_ne_some.2 fun text h => hno text ((load_eq_ok_iff hread).2 h)
  rw [load, hread]
  simp only [hnone]

/-- **Loading is exact.** What is loaded from the bytes of a file is

* the characters that the bytes encode, less a byte-order mark in front, with a
  line feed for every pair of a carriage return and a line feed and then for
  every carriage return that is left,
* or nothing, from the two marks that are cut off;

and where there is no such text the file cannot be decoded. No text has a
carriage return in it. A text without one is loaded from whatever holds it, so
that a check is the same for all of it – what the sink is told, with the places
of the tokens, and what is raised, with its causes – as for the text
itself. -/
theorem load_exact (hread : read path = .ok bytes) :
    (∀ text, load read path = .ok text
      ↔ (∃ s, encoded s = dropMark bytes ∧ text = String.ofList (feedReturns (joinPairs s)))
        ∨ (bytes = [0xef] ∨ bytes = [0xef, 0xbb]) ∧ text = "")
      ∧ ((∀ text, load read path ≠ .ok text) → load read path = .error .undecodable)
      ∧ (∀ text, load read path = .ok text → '\r' ∉ text.toList)
      ∧ ∀ s, '\r' ∉ s → Holds s bytes →
        load read path = .ok (String.ofList s)
        ∧ ∀ {τ : Type} [Listener τ] (sink : τ),
          checkFile read path sink = checkText (String.ofList s) sink path := by
  refine ⟨fun text => (load_eq_ok_iff hread).trans ofBytes?_eq_some_iff,
    load_eq_undecodable hread, fun text h => ?_, fun s hs hholds => ?_⟩
  · rcases ofBytes?_eq_some_iff.1 ((load_eq_ok_iff hread).1 h) with ⟨s, -, rfl⟩ | ⟨-, rfl⟩
    · rw [String.toList_ofList, ← unifyLineEnds_eq]
      exact return_not_mem_unifyLineEnds s
    · simp
  · have hload : load read path = .ok (String.ofList s) :=
      (load_eq_ok_iff hread).2 (hholds.ofBytes? hs)
    exact ⟨hload, fun sink => by rw [checkFile, hload]⟩

/-- Two lines kept with a mark and pairs; a carriage return in front of a pair;
a mark that is cut off, alone and behind a whole one. -/
theorem load_exact_marked :
    load (fun _ => .ok [0xef, 0xbb, 0xbf, 0x61, 0x0d, 0x0a, 0x0d, 0x0a]) "p" = .ok "a\n\n"
      ∧ checkFile (fun _ => .ok [0xef, 0xbb, 0xbf, 0x61, 0x0d, 0x0a, 0x0d, 0x0a]) "p"
          Sink.recorder
        = checkText "a\n\n" Sink.recorder "p"
      ∧ load (fun _ => .ok [0x61, 0x0d, 0x0d, 0x0a]) "p" = .ok "a\n\n"
      ∧ load (fun _ => .ok [0xef, 0xbb]) "p" = .ok ""
      ∧ load (fun _ => .ok [0xef, 0xbb, 0xbf, 0xef, 0xbb]) "p" = .error .undecodable := by
  have hholds : Holds ['a', '\n', '\n'] [0xef, 0xbb, 0xbf, 0x61, 0x0d, 0x0a, 0x0d, 0x0a] :=
    .marked .pair
  have hpairs := (@load_exact (fun _ => .ok _) "p" _ rfl).2.2.2 _ (by decide) hholds
  refine ⟨hpairs.1, hpairs.2 _, ?_, ?_, ?_⟩
  · exact ((load_exact rfl).1 _).2 (.inl ⟨['a', '\r', '\r', '\n'], by decide, by decide⟩)
  · exact ((load_exact rfl).1 _).2 (.inr ⟨.inr rfl, rfl⟩)
  · refine (load_exact rfl).2.1 fun text htext => ?_
    obtain ⟨s, hs, -⟩ | ⟨h, -⟩ := ((load_exact rfl).1 text).1 htext
    · have hcut := isCutMark_encoded s
      rw [hs] at hcut
      revert hcut
      decide
    · revert h
      decide

end SyntaxChecker.SourceText
