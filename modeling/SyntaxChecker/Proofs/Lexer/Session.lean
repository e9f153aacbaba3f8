import SyntaxChecker.Proofs.Lexer.Stream

/-!
# Sessions with a lexer

Many hands may use one lexer. It is asked to deliver a token, or to tell it; walks
over its tokens begin at any time and are advanced in turns; and now and then it is
bound to another text. A `Session` is a lexer with the walks that share it, and a
`Query` is a single step that one of its users takes.

To all of them together, the lexer is still one stream (`Session.replies_of_stream`).
From the time when it was bound to a text, what it has delivered so far is the front
of the stream of that text, whoever it was delivered to, and what it tells is the
element behind. Nothing else of its past can be observed, and so it makes no
difference who has made it tell a token. Of the past of a walk, a single fact can be
observed: whether the end of the input or an error has passed through it.
-/

namespace SyntaxChecker

/-! ## Queries and replies -/

/-- A step of somebody who uses a lexer. -/
inductive Query
  /-- Have the next token delivered. -/
  | next
  /-- Have the next token told. -/
  | peek
  /-- Begin another walk. -/
  | walk
  /-- Advance the walk of the given number. -/
  | advance (k : ℕ)
  /-- Bind the lexer to a text that begins at the given place. -/
  | reset (text : String) (line col : ℤ)
  deriving DecidableEq

/-- Whether a query binds the lexer to another text. -/
def Query.isReset : Query → Bool
  | .reset .. => true
  | _ => false

/-- What a query is replied. -/
inductive Reply
  | delivered (o : Except LexicalError Token)
  | told (o : Except LexicalError Token)
  /-- The walk has ended. -/
  | ended
  /-- There was nothing to say. -/
  | silence
  deriving DecidableEq

namespace Reply

/-- What is heard of the text, if anything is. -/
def outcome? : Reply → Option (Except LexicalError Token)
  | .delivered o => some o
  | .told o => some o
  | _ => none

/-- What is delivered, if anything is. -/
def delivery? : Reply → Option (Except LexicalError Token)
  | .delivered o => some o
  | _ => none

/-- Whether a token is told, or the error that stands in its place. -/
def isTold : Reply → Bool
  | .told _ => true
  | _ => false

theorem delivery?_of_outcome? {r : Reply} (h : r.outcome? = none) : r.delivery? = none := by
  cases r with
  | delivered o => cases h
  | _ => rfl

theorem isTold_of_outcome? {r : Reply} (h : r.outcome? = none) : r.isTold = false := by
  cases r with
  | told o => cases h
  | _ => rfl

/-- The reply to the query that advances a walk. -/
def ofAdvance : Except LexicalError (Option Token) → Reply
  | .ok none => .ended
  | .ok (some t) => .delivered (.ok t)
  | .error e => .delivered (.error e)

end Reply

/-- All that is delivered. -/
def deliveries (replies : List Reply) : List (Except LexicalError Token) :=
  replies.filterMap Reply.delivery?

/-! ## Sessions -/

/-- A lexer, and the walks that share it. -/
structure Session where
  lexer : Lexer
  walks : List TokenWalk

namespace Session

/-- Put one query. Nothing is said about a walk that has not begun. -/
def ask (s : Session) : Query → Reply × Session
  | .next => (.delivered s.lexer.next.1, ⟨s.lexer.next.2, s.walks⟩)
  | .peek => (.told s.lexer.peek.1, ⟨s.lexer.peek.2, s.walks⟩)
  | .walk => (.silence, ⟨s.lexer, s.walks ++ [.start]⟩)
  | .advance k =>
    match s.walks[k]? with
    | none => (.silence, s)
    | some w =>
      match w.advance s.lexer with
      | (outcome, w', l) => (.ofAdvance outcome, ⟨l, s.walks.set k w'⟩)
  | .reset text line col => (.silence, ⟨.startingAt text line col, s.walks⟩)

/-- Put one query after the other. -/
def askAll (s : Session) : List Query → List Reply × Session
  | [] => ([], s)
  | q :: qs => ((s.ask q).1 :: ((s.ask q).2.askAll qs).1, ((s.ask q).2.askAll qs).2)

end Session

/-! ## Advancing a walk -/

/-- Whether an outcome is the last that a walk delivers. -/
def Lexer.isFinal : Except LexicalError Token → Bool
  | .ok t => t.isEof
  | .error _ => true

theorem TokenWalk.advance_of_ended {w : TokenWalk} (hw : w.ended = true) (l : Lexer) :
    w.advance l = (.ok none, w, l) := by
  unfold advance
  rw [if_pos hw]

/-- A walk that has not ended takes what the lexer delivers. -/
theorem TokenWalk.advance_of_not_ended {w : TokenWalk} (hw : w.ended = false) (l : Lexer) :
    ∃ outcome, w.advance l = (outcome, ⟨Lexer.isFinal l.next.1⟩, l.next.2)
      ∧ Reply.ofAdvance outcome = .delivered l.next.1 := by
  unfold advance
  rw [if_neg (by rw [hw]; exact Bool.false_ne_true)]
  rcases l.next with ⟨_ | _, l'⟩ <;> exact ⟨_, rfl, rfl⟩

namespace Session

variable {s s' : Session} {k : ℕ} {w : TokenWalk}

/-- **An ended walk** has nothing more to say, and takes nothing from the lexer. -/
theorem ask_advance_of_ended (h : s.walks[k]? = some w) (hw : w.ended = true) :
    s.ask (.advance k) = (.ended, s) := by
  obtain ⟨hk, rfl⟩ := List.getElem?_eq_some_iff.1 h
  unfold ask
  dsimp only
  rw [h]
  dsimp only
  rw [TokenWalk.advance_of_ended hw, List.set_getElem_self]
  rfl

theorem ask_advance_of_not_ended (h : s.walks[k]? = some w) (hw : w.ended = false) :
    s.ask (.advance k) = (.delivered s.lexer.next.1,
      ⟨s.lexer.next.2, s.walks.set k ⟨Lexer.isFinal s.lexer.next.1⟩⟩) := by
  obtain ⟨outcome, hadvance, hreply⟩ := TokenWalk.advance_of_not_ended hw s.lexer
  unfold ask
  dsimp only
  rw [h]
  dsimp only
  rw [hadvance, hreply]

theorem ask_advance_of_none (h : s.walks[k]? = none) : s.ask (.advance k) = (.silence, s) := by
  unfold ask
  dsimp only
  rw [h]

/-- **It is up to the walks alone** whether one of them takes a token. -/
theorem ask_advance_cases (walks : List TokenWalk) (k : ℕ) :
    (∃ r : Reply, r.outcome? = none ∧ ∀ l, ask ⟨l, walks⟩ (.advance k) = (r, ⟨l, walks⟩))
      ∨ ∀ l, ask ⟨l, walks⟩ (.advance k) = (.delivered l.next.1,
          ⟨l.next.2, walks.set k ⟨Lexer.isFinal l.next.1⟩⟩) := by
  cases hk : walks[k]? with
  | none => exact .inl ⟨.silence, rfl, fun l => ask_advance_of_none hk⟩
  | some w =>
    cases hw : w.ended with
    | true => exact .inl ⟨.ended, rfl, fun l => ask_advance_of_ended hk hw⟩
    | false => exact .inr fun l => ask_advance_of_not_ended hk hw

/-- **What a query does to a lexer**: it has the next token delivered, it has it told,
or it leaves the lexer alone, unless it binds the lexer to another text. -/
theorem ask_cases (s : Session) {q : Query} (hq : q.isReset = false) :
    ((s.ask q).1 = .delivered s.lexer.next.1 ∧ (s.ask q).2.lexer = s.lexer.next.2)
      ∨ ((s.ask q).1 = .told s.lexer.peek.1 ∧ (s.ask q).2.lexer = s.lexer.peek.2)
      ∨ ((s.ask q).1.outcome? = none ∧ (s.ask q).2.lexer = s.lexer) := by
  cases q with
  | next => exact .inl ⟨rfl, rfl⟩
  | peek => exact .inr (.inl ⟨rfl, rfl⟩)
  | walk => exact .inr (.inr ⟨rfl, rfl⟩)
  | advance k =>
    rcases ask_advance_cases s.walks k with ⟨r, hr, hask⟩ | hask
    · rw [hask]
      exact .inr (.inr ⟨hr, rfl⟩)
    · rw [hask]
      exact .inl ⟨rfl, rfl⟩
  | reset => cases hq

/-! ## What is delivered -/

/-- **What a query does to the stream**: it takes the first element of it, or it leaves
it as it is. -/
theorem ask_stream (s : Session) {q : Query} (hq : q.isReset = false) :
    ((s.ask q).1.delivery? = some s.lexer.stream.head
        ∧ (s.ask q).2.lexer.stream = s.lexer.stream.tail)
      ∨ ((s.ask q).1.delivery? = none ∧ (s.ask q).2.lexer.stream = s.lexer.stream) := by
  rcases s.ask_cases hq with ⟨hreply, hlexer⟩ | ⟨hreply, hlexer⟩ | ⟨hreply, hlexer⟩
  · rw [hreply, hlexer, Lexer.tail_stream]
    exact .inl ⟨rfl, rfl⟩
  · rw [hreply, hlexer, Lexer.stream_peek]
    exact .inr ⟨rfl, rfl⟩
  · rw [hlexer]
    exact .inr ⟨Reply.delivery?_of_outcome? hreply, rfl⟩

/-- **Deliveries are the front of the stream**, and the rest of it is still to come. -/
theorem askAll_stream {qs : List Query} (hqs : ∀ q ∈ qs, q.isReset = false) (s : Session) :
    deliveries (s.askAll qs).1 = s.lexer.stream.take (deliveries (s.askAll qs).1).length
      ∧ (s.askAll qs).2.lexer.stream
        = s.lexer.stream.drop (deliveries (s.askAll qs).1).length := by
  induction qs generalizing s with
  | nil => exact ⟨rfl, rfl⟩
  | cons q qs ih =>
    obtain ⟨hq, hqs⟩ := List.forall_mem_cons.1 hqs
    obtain ⟨htake, hdrop⟩ := ih hqs (s.ask q).2
    rw [askAll]
    rcases s.ask_stream hq with ⟨hdelivery, hstream⟩ | ⟨hdelivery, hstream⟩
    · rw [hstream] at htake hdrop
      rw [deliveries, List.filterMap_cons_some hdelivery, List.length_cons, Stream'.take_succ]
      exact ⟨congrArg _ htake, hdrop⟩
    · rw [hstream] at htake hdrop
      rw [deliveries, List.filterMap_cons_none hdelivery]
      exact ⟨htake, hdrop⟩

/-! ## What is told -/

/-- **Sessions that cannot be told apart**: only what their lexers deliver counts. -/
structure Alike (s s' : Session) : Prop where
  next_eq : s.lexer.next = s'.lexer.next
  walks_eq : s.walks = s'.walks

theorem alike_peek (s : Session) : Alike (s.ask .peek).2 s := ⟨s.lexer.next_peek, rfl⟩

/-- Sessions that cannot be told apart reply the same, and go on so. -/
theorem Alike.ask (h : Alike s s') (q : Query) :
    (s.ask q).1 = (s'.ask q).1 ∧ Alike (s.ask q).2 (s'.ask q).2 := by
  obtain ⟨l, walks⟩ := s
  obtain ⟨l', walks'⟩ := s'
  obtain ⟨hnext, rfl⟩ : l.next = l'.next ∧ walks = walks' := ⟨h.next_eq, h.walks_eq⟩
  cases q with
  | next =>
    show Reply.delivered l.next.1 = .delivered l'.next.1
      ∧ Alike ⟨l.next.2, walks⟩ ⟨l'.next.2, walks⟩
    rw [hnext]
    exact ⟨rfl, rfl, rfl⟩
  | peek =>
    show Reply.told l.peek.1 = .told l'.peek.1 ∧ Alike ⟨l.peek.2, walks⟩ ⟨l'.peek.2, walks⟩
    rw [l.peek_fst_eq, l'.peek_fst_eq, hnext]
    exact ⟨rfl, by rw [l.next_peek, l'.next_peek, hnext], rfl⟩
  | walk => exact ⟨rfl, hnext, rfl⟩
  | advance k =>
    rcases ask_advance_cases walks k with ⟨r, -, hask⟩ | hask
    · rw [hask, hask]
      exact ⟨rfl, h⟩
    · rw [hask, hask, hnext]
      exact ⟨rfl, rfl, rfl⟩
  | reset => exact ⟨rfl, rfl, rfl⟩

theorem isTold_ask (s : Session) {q : Query} (hq : q ≠ .peek) : (s.ask q).1.isTold = false := by
  cases q with
  | peek => exact absurd rfl hq
  | advance k =>
    rcases ask_advance_cases s.walks k with ⟨r, hr, hask⟩ | hask
    · rw [hask]
      exact Reply.isTold_of_outcome? hr
    · rw [hask]
      rfl
  | _ => rfl

/-- **To leave out the queries that have a token told** leaves out the replies to them,
and nothing else. -/
theorem askAll_filter_peek (h : Alike s s') (qs : List Query) :
    (s.askAll (qs.filter (· ≠ .peek))).1 = (s'.askAll qs).1.filter (fun r => !r.isTold) := by
  induction qs generalizing s s' with
  | nil => rfl
  | cons q qs ih =>
    by_cases hq : q = .peek
    · subst hq
      rw [List.filter_cons_of_neg (by decide), askAll, List.filter_cons_of_neg (by nofun)]
      exact ih ⟨h.next_eq.trans (alike_peek s').next_eq.symm, h.walks_eq⟩
    · obtain ⟨hreply, halike⟩ := h.ask q
      rw [List.filter_cons_of_pos (by simpa using hq), askAll, askAll,
        List.filter_cons_of_pos (by rw [isTold_ask s' hq]; rfl), hreply, ih halike]

/-! ## The end of a walk -/

/-- A walk stays as it is while others are served. -/
theorem walks_ask_of_ne (h : s.walks[k]? = some w) {q : Query} (hq : q ≠ .advance k) :
    (s.ask q).2.walks[k]? = some w := by
  cases q with
  | walk =>
    show (s.walks ++ [.start])[k]? = some w
    rwa [List.getElem?_append_left (List.getElem?_eq_some_iff.1 h).1]
  | advance j =>
    have hj : j ≠ k := fun hj => hq (congrArg _ hj)
    rcases ask_advance_cases s.walks j with ⟨r, -, hask⟩ | hask
    · rw [hask]
      exact h
    · rw [hask, List.getElem?_set_ne hj]
      exact h
  | _ => exact h

/-- **A query ends a walk** if it has the walk deliver the end of the input or an
error. -/
theorem ask_walk (h : s.walks[k]? = some w) (q : Query) :
    ∃ w', (s.ask q).2.walks[k]? = some w' ∧ (w'.ended = true ↔ w.ended = true
      ∨ ∃ o, Lexer.isFinal o = true ∧ (.advance k, .delivered o) = (q, (s.ask q).1)) := by
  by_cases hq : q = .advance k
  · subst hq
    cases hw : w.ended with
    | true =>
      rw [ask_advance_of_ended h hw]
      exact ⟨w, h, iff_of_true hw (.inl rfl)⟩
    | false =>
      rw [ask_advance_of_not_ended h hw]
      refine ⟨_, List.getElem?_set_self (List.getElem?_eq_some_iff.1 h).1, ?_⟩
      constructor
      · exact fun hfinal => .inr ⟨_, hfinal, rfl⟩
      · rintro (hended | ⟨o, hfinal, heq⟩)
        · cases hended
        · rwa [← Reply.delivered.inj (Prod.mk.inj heq).2]
  · refine ⟨w, walks_ask_of_ne h hq, .inl, ?_⟩
    rintro (hended | ⟨o, -, heq⟩)
    · exact hended
    · exact absurd (Prod.mk.inj heq).1.symm hq

/-- **The life of a walk.** It has ended if, at any time, it delivered the end of the
input or an error. -/
theorem askAll_walk (h : s.walks[k]? = some w) (qs : List Query) :
    ∃ w', (s.askAll qs).2.walks[k]? = some w' ∧ (w'.ended = true ↔ w.ended = true
      ∨ ∃ o, Lexer.isFinal o = true
        ∧ (.advance k, .delivered o) ∈ qs.zip (s.askAll qs).1) := by
  induction qs generalizing s w with
  | nil => exact ⟨w, h, by simp [askAll]⟩
  | cons q qs ih =>
    obtain ⟨w₁, hw₁, hended₁⟩ := ask_walk h q
    obtain ⟨w₂, hw₂, hended₂⟩ := ih hw₁
    refine ⟨w₂, hw₂, ?_⟩
    rw [hended₂, hended₁, askAll, List.zip_cons_cons, or_assoc, ← exists_or]
    simp only [List.mem_cons, and_or_left]

/-! ## One stream for all -/

/-- **A lexer is one stream to all who use it.** A lexer of its own delivers the tokens
of a text and then the end of the input over and over, or else some tokens and then the
same error over and over. If a lexer is bound to the text, whatever happened before, and
then put any queries, all that it has delivered is the front of this stream, with the
places moved to where the text was said to begin. What comes next is the element behind,
whether it is delivered, told, or delivered to a walk that has not ended. To leave out
the queries that have a token told leaves out the replies to them, and nothing else. A
walk has ended if it has delivered the end of the input or an error, from whatever text,
and otherwise it has not. -/
theorem replies_of_stream (text : String) (line col : ℤ) :
    let fresh := (Lexer.ofText text).stream
    let stream := fresh.map (Lexer.moved ⟨line, col⟩)
    ((∃ ts t, tokensOf text = .ok (ts ++ [t]) ∧ (∀ u ∈ ts, u.isEof = false) ∧ t.isEof = true
          ∧ fresh = ts.map .ok ++ₛ Stream'.const (.ok t))
        ∨ ∃ (ts : List Token) (e : LexicalError), tokensOf text = .error e
          ∧ (∀ u ∈ ts, u.isEof = false) ∧ fresh = ts.map .ok ++ₛ Stream'.const (.error e))
    ∧ (∀ (s₀ : Session) (qs : List Query), (∀ q ∈ qs, q.isReset = false) →
        let run := (s₀.ask (.reset text line col)).2.askAll qs
        let n := (deliveries run.1).length
        deliveries run.1 = stream.take n
          ∧ (run.2.ask .next).1 = .delivered (stream.get n)
          ∧ (run.2.ask .peek).1 = .told (stream.get n)
          ∧ ∀ k w, run.2.walks[k]? = some w → w.ended = false →
            (run.2.ask (.advance k)).1 = .delivered (stream.get n))
    ∧ (∀ (s : Session) (qs : List Query),
        (s.askAll (qs.filter (· ≠ .peek))).1 = (s.askAll qs).1.filter (fun r => !r.isTold))
    ∧ ∀ (s : Session) (qs : List Query) (k : ℕ), s.walks[k]? = some .start →
        ∃ w, (s.askAll qs).2.walks[k]? = some w
          ∧ (w.ended = true ↔ ∃ o, Lexer.isFinal o = true
            ∧ (.advance k, .delivered o) ∈ qs.zip (s.askAll qs).1)
          ∧ (w.ended = true → (s.askAll qs).2.ask (.advance k) = (.ended, (s.askAll qs).2)) := by
  intro fresh stream
  refine ⟨Lexer.stream_settles rfl, fun s₀ qs hqs => ?_, fun s => askAll_filter_peek ⟨rfl, rfl⟩,
    fun s qs k hk => ?_⟩
  · have hbound : (s₀.ask (.reset text line col)).2.lexer.stream = stream :=
      Lexer.stream_startingAt text line col
    obtain ⟨htake, hdrop⟩ := askAll_stream hqs (s₀.ask (.reset text line col)).2
    rw [hbound] at htake hdrop
    intro run n
    have hnext : stream.get n = run.2.lexer.next.1 := by
      rw [← Stream'.head_drop, ← hdrop, Lexer.head_stream]
    rw [hnext]
    refine ⟨htake, rfl, congrArg Reply.told run.2.lexer.peek_fst_eq, fun k w hk hw => ?_⟩
    rw [ask_advance_of_not_ended hk hw]
  · obtain ⟨w, hw, hended⟩ := askAll_walk hk qs
    exact ⟨w, hw, by simpa [TokenWalk.start] using hended, ask_advance_of_ended hw⟩

/-- A walk, and somebody who looks ahead, at a text that holds one token and a character
that begins none. The lexer had read ahead in another text before. A walk that the error
passes through has ended for good, although the lexer is bound to a text that has none. -/
theorem replies_of_stream_name_and_mark :
    let s₀ : Session := ⟨(Lexer.ofText "BEGIN").peek.2, []⟩
    let s := (s₀.ask (.reset "x\n?" 5 3)).2
    let qs : List Query := [.walk, .peek, .advance 0, .peek]
    let e : LexicalError := ⟨"Unexpected character '?'", 6, 1, "?"⟩
    let begun := (s.ask .walk).2
    let rs : List Query := [.next, .advance 0, .reset "x" 1 1]
    (∀ q ∈ qs, q.isReset = false)
      ∧ deliveries (s.askAll qs).1 = [.ok ⟨.identifier, "x", 5, 3⟩]
      ∧ ((s.askAll qs).2.ask .next).1 = .delivered (.error e)
      ∧ begun.walks[0]? = some .start
      ∧ (.advance 0, .delivered (.error e)) ∈ rs.zip (begun.askAll rs).1
      ∧ (begun.askAll rs).2.ask (.advance 0) = (.ended, (begun.askAll rs).2) := by
  intro s₀ s qs e begun rs
  obtain ⟨-, hreplies, -, hwalks⟩ := replies_of_stream "x\n?" 5 3
  have hqs : ∀ q ∈ qs, q.isReset = false := by decide
  have hstart : begun.walks[0]? = some .start := rfl
  have hlast : (.advance 0, .delivered (.error e)) ∈ rs.zip (begun.askAll rs).1 :=
    .tail _ (.head _)
  obtain ⟨hfront, hnext, -⟩ := hreplies s₀ qs hqs
  obtain ⟨w, -, hended, hstays⟩ := hwalks begun rs 0 hstart
  exact ⟨hqs, hfront, hnext, hstart, hlast, hstays (hended.2 ⟨_, rfl, hlast⟩)⟩

end Session

end SyntaxChecker
