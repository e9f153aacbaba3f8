import SyntaxChecker.Analyser

/-!
# What a sink hears

A check is independent of the sink that it reports to, as long as the sink
raises nothing that it is not asked to raise. So what can be said about all
such sinks can be said about one: the `Journal`, which writes down every notice
and does nothing else. `Call.notices` is what a journal holds after a call.

A sink state is *calm* if whatever it may hear, it answers a mismatch with the
error for it and everything else with silence (`Listener.Calm`). The main
statement is `Call.run_eq_replay`: a call with a calm sink ends like the call
with a journal, in the same state of everything but the sink, and the sink ends
as if the journal had been read to it.

That and most of what is known about the interpreter is proved by one
induction, over the depth and then over the phrase. `Lockstep` states it once:
a relation between two ways to interpret phrases that the parts of a phrase
pass on to the phrase holds of `Analyser.follow`. One use of it comes up again
and again: to look at an analyser in another way, with another sink or another
supply, makes no difference to calls if it makes none to the steps that calls are
made of (`Simulation`).
-/

namespace SyntaxChecker

/-! ## One induction for all -/

section Lockstep

variable {σ τ σ' τ' : Type} [Supply σ] [Listener τ] [Supply σ'] [Listener τ']

open Analyser in
/-- **What the parts of a phrase pass on to the phrase.** `R p x y` relates two
interpretations `x` and `y` of the phrase `p`. -/
structure Lockstep (R : Phrase → Action σ τ → Action σ' τ' → Prop) : Prop where
  tooDeep (p : Phrase) :
    R p (Action.raise (Raised.fresh .tooDeep)) (Action.raise (Raised.fresh .tooDeep))
  empty : R .empty Action.done Action.done
  unmet (expected : String) : R (.unmet expected) (mismatch expected) (mismatch expected)
  terminal (s : Symbol) : R (.terminal s) (accept s) (accept s)
  rule {r : Rule} {x : Action σ τ} {y : Action σ' τ'} :
    R r.production x y → R (.rule r) (bracket r x) (bracket r y)
  seq {p q : Phrase} {x x' : Action σ τ} {y y' : Action σ' τ'} :
    R p x y → R q x' y' → R (.seq p q) (Action.andThen x x') (Action.andThen y y')
  alt {p q : Phrase} {x x' : Action σ τ} {y y' : Action σ' τ'} :
    R p x y → R q x' y' →
      R (.alt p q) (Action.ifNext p.starters x x') (Action.ifNext p.starters y y')
  star {p : Phrase} {x x' : Action σ τ} {y y' : Action σ' τ'} :
    R p x y → R (.star p) x' y' →
      R (.star p) (Action.ifNext p.starters (Action.andThen x x') Action.done)
        (Action.ifNext p.starters (Action.andThen y y') Action.done)

namespace Lockstep

variable {R : Phrase → Action σ τ → Action σ' τ' → Prop}

/-- One level of the interpreter: the references of a phrase are interpreted in
lockstep, hence the phrase is. -/
theorem followWith (h : Lockstep R) {call : Phrase → Action σ τ} {call' : Phrase → Action σ' τ'}
    (hcall : ∀ p, R p (call p) (call' p)) (p : Phrase) :
    R p (Analyser.followWith call p) (Analyser.followWith call' p) := by
  induction p with
  | empty => exact h.empty
  | unmet expected => exact h.unmet expected
  | terminal s => exact h.terminal s
  | rule r => exact h.rule (hcall r.production)
  | seq p q ihp ihq => exact h.seq ihp ihq
  | alt p q ihp ihq => exact h.alt ihp ihq
  | star p ih => exact h.star ih (hcall (.star p))

/-- **The interpreter keeps in lockstep**, to every depth. -/
theorem follow (h : Lockstep R) (n : Nat) (p : Phrase) :
    R p (Analyser.follow n p) (Analyser.follow n p) := by
  induction n generalizing p with
  | zero => exact h.tooDeep p
  | succ n ih => exact h.followWith ih p

end Lockstep

end Lockstep

theorem Action.andThen_assoc {σ τ : Type} (x y z : Action σ τ) :
    Action.andThen (Action.andThen x y) z = Action.andThen x (Action.andThen y z) := by
  funext a
  unfold Action.andThen
  rcases x a with ⟨_ | _, b⟩ <;> rfl

/-! ## Calls -/

/-- What an analyser may be asked to check: a whole program, a rule, or a single
terminal. -/
inductive Call where
  | program
  | rule (r : Rule)
  | terminal (s : Symbol)
  deriving DecidableEq, Repr

namespace Call

variable {σ τ : Type} [Supply σ] [Listener τ]

/-- Check what is asked for. -/
def run : Call → Action σ τ
  | program => Analyser.checkProgram
  | rule r => Analyser.checkRule r
  | terminal s => Analyser.accept s

/-- A program is checked in two steps, of which the second only tells the
sink. -/
theorem run_program :
    (program.run : Action σ τ)
      = Action.andThen (Action.andThen (Analyser.checkRule .statementPart) (Analyser.accept .eof))
          (Analyser.notify .success) :=
  (Action.andThen_assoc ..).symm

/-- The phrase that a call checks. Behind a program comes the end of the
input. -/
def phrase : Call → Phrase
  | program => .seq (.rule .statementPart) (.terminal .eof)
  | rule r => .rule r
  | terminal s => .terminal s

/-- What the sink hears last of all: that a whole program was checked and
nothing is wrong with it. -/
def closing : Call → Outcome → List Notice
  | program, .ok () => [.success]
  | _, _ => []

end Call

/-! ## Calm sinks -/

/-- What a calm sink does about a notice: it raises the error for a mismatch,
and nothing else. -/
def Notice.answer : Notice → Outcome
  | .mismatch t message => .error (mismatchError t message)
  | .event _ | .success => .ok ()

/-- The token that a notice says was accepted. -/
def Notice.token? : Notice → Option Token
  | .event e => e.token?
  | .mismatch _ _ | .success => none

namespace Listener

variable {τ : Type} [Listener τ]

/-- Bring a notice to a sink in the way that is due to it: a mismatch is
reported. -/
def send : Notice → τ → Outcome × τ
  | .mismatch t message, s => report t message s
  | n, s => notify n s

/-- The sink after some notices. -/
def sendAll (notices : List Notice) (s : τ) : τ := notices.foldl (fun s n => (send n s).2) s

@[simp] theorem sendAll_nil (s : τ) : sendAll [] s = s := rfl

@[simp] theorem sendAll_append (ns ns' : List Notice) (s : τ) :
    sendAll (ns ++ ns') s = sendAll ns' (sendAll ns s) := List.foldl_append

@[simp] theorem sendAll_singleton (n : Notice) (s : τ) : sendAll [n] s = (send n s).2 := rfl

/-- **A calm sink raises nothing unasked**, now or after anything that it may
hear. -/
def Calm (s : τ) : Prop := ∀ ns n, (send n (sendAll ns s)).1 = n.answer

/-- A sink is calm if it is in a set of states that answer as is due and that
no notice leads out of. -/
theorem calm_of_invariant {I : τ → Prop} {s : τ} (hs : I s)
    (h : ∀ s n, I s → (send n s).1 = n.answer ∧ I (send n s).2) : Calm s := by
  intro ns n
  have hns : I (sendAll ns s) := by
    induction ns generalizing s with
    | nil => exact hs
    | cons n ns ih => exact ih (h s n hs).2
  exact (h _ n hns).1

theorem Calm.send {s : τ} (h : Calm s) (ns : List Notice) (n : Notice) :
    Listener.send n (sendAll ns s) = (n.answer, sendAll (ns ++ [n]) s) := by
  rw [sendAll_append, sendAll_singleton, ← h ns n]

end Listener

open Listener

/-- A sink that records is calm. -/
theorem Sink.calm_recording (r : Recording) : Calm (Sink.recording r) := by
  refine calm_of_invariant (I := fun s => ∃ r, s = Sink.recording r) ⟨r, rfl⟩ ?_
  rintro s n ⟨r, rfl⟩
  cases n <;> exact ⟨rfl, _, rfl⟩

/-! ## The journal -/

/-- A sink that writes down every notice, in order, and raises nothing
unasked. -/
structure Journal where
  notices : List Notice
  deriving Repr

namespace Journal

/-- Nothing is written down yet. -/
def empty : Journal := ⟨[]⟩

/-- Write down some notices. -/
def write (j : Journal) (ns : List Notice) : Journal := ⟨j.notices ++ ns⟩

theorem write_nil (j : Journal) : j.write [] = j := congrArg mk (List.append_nil _)

theorem write_write (j : Journal) (ns ns' : List Notice) :
    (j.write ns).write ns' = j.write (ns ++ ns') := congrArg mk (List.append_assoc ..)

instance : Listener Journal where
  notify n j := (.ok (), j.write [n])
  report t message j := (.error (mismatchError t message), j.write [.mismatch t message])
  title _ := "Journal"

end Journal

namespace Analyser

variable {σ τ : Type}

/-- The same analyser with a new journal for its sink. -/
def journaled (a : Analyser σ τ) : Analyser σ Journal :=
  ⟨a.supply, Journal.empty, a.lookahead, a.sourceName⟩

/-- The same analyser with a sink to which the journal has been read. -/
def replay [Listener τ] (s : τ) (j : Analyser σ Journal) : Analyser σ τ :=
  ⟨j.supply, sendAll j.sink.notices s, j.lookahead, j.sourceName⟩

end Analyser

/-- What a sink hears in a call. -/
def Call.notices {σ τ : Type} [Supply σ] (c : Call) (a : Analyser σ τ) : List Notice :=
  (c.run a.journaled).2.sink.notices

namespace Analyser

variable {σ τ : Type} [Listener τ] {a : Analyser σ τ}

/-- What the sink does with a notice is all that happens. -/
theorem notify_of_eq {n : Notice} {o : Outcome} {s : τ} (h : Listener.notify n a.sink = (o, s)) :
    notify n a = (o, { a with sink := s }) := by
  cases a
  unfold notify
  dsimp only at h ⊢
  rw [h]

/-- The sink raises the error for a mismatch. -/
theorem mismatch_of_eq {expected : String} {e : Raised} {s : τ}
    (h : Listener.report a.lookahead (a.message expected a.lookahead) a.sink = (.error e, s)) :
    mismatch expected a = (.error e, { a with sink := s }) := by
  unfold mismatch
  rw [h]

section Terminal

variable [Supply σ] {t : Token} {s : Symbol} {u : σ}

omit [Listener τ] in
theorem advance_of_pull (h : Supply.pull a.supply = (.ok t, u)) :
    advance a = (.ok (), { a with supply := u, lookahead := t }) := by
  unfold advance
  rw [h]

omit [Listener τ] in
theorem advance_of_fault {e : Raised} (h : Supply.pull a.supply = (.error e, u)) :
    advance a = (.error e, { a with supply := u }) := by
  unfold advance
  rw [h]

/-- Of a terminal that fits the sink hears first, and then the next token is taken. -/
theorem accept_of_eq (h : a.lookahead.symbol = s) :
    accept s a = Action.andThen (notify (.event (.terminal a.lookahead))) advance a := if_pos h

/-- A terminal that does not fit is a mismatch. -/
theorem accept_of_ne (h : a.lookahead.symbol ≠ s) :
    accept s a = mismatch ("'" ++ s.displayName ++ "'") a := if_neg h

end Terminal

end Analyser

/-! ## Simulations -/

section Simulation

variable {σ τ σ' τ' : Type} {f : Analyser σ τ → Analyser σ' τ'} {x x' : Action σ τ}
  {y y' : Action σ' τ'}

/-- Two actions that do the same, the second to what `f` makes of an analyser. -/
def Action.Simulates (f : Analyser σ τ → Analyser σ' τ') (x : Action σ τ)
    (y : Action σ' τ') : Prop := ∀ a, y (f a) = ((x a).1, f (x a).2)

namespace Action.Simulates

theorem done : Simulates f Action.done Action.done := fun _ => rfl

theorem raise (r : Raised) : Simulates f (Action.raise r) (Action.raise r) := fun _ => rfl

theorem andThen (h : Simulates f x y) (h' : Simulates f x' y') :
    Simulates f (Action.andThen x x') (Action.andThen y y') := by
  intro a
  unfold Action.andThen
  rw [h a]
  rcases x a with ⟨_ | _, b⟩
  · rfl
  · exact h' b

theorem trans {σ₀ τ₀ : Type} {g : Analyser σ₀ τ₀ → Analyser σ τ} {z : Action σ₀ τ₀}
    (h : Simulates g z x) (h' : Simulates f x y) : Simulates (f ∘ g) z y := by
  intro a
  show y (f (g a)) = _
  rw [h' (g a), h a]
  rfl

/-- To take a token has nothing to do with the sink. -/
theorem advance [Supply σ] (g : τ → τ') :
    Simulates (fun a : Analyser σ τ => Analyser.mk a.supply (g a.sink) a.lookahead a.sourceName)
      Analyser.advance Analyser.advance := by
  intro a
  rcases hpull : Supply.pull a.supply with ⟨_ | _, _⟩
  · rw [Analyser.advance_of_fault hpull]
    exact Analyser.advance_of_fault hpull
  · rw [Analyser.advance_of_pull hpull]
    exact Analyser.advance_of_pull hpull

end Action.Simulates

variable [Supply σ] [Listener τ] [Supply σ'] [Listener τ']

open SyntaxChecker.Action (Simulates)

/-- **Another way to look at an analyser** that makes no difference to the steps that calls
are made of. -/
structure Simulation (f : Analyser σ τ → Analyser σ' τ') : Prop where
  lookahead (a : Analyser σ τ) : (f a).lookahead = a.lookahead
  sourceName (a : Analyser σ τ) : (f a).sourceName = a.sourceName
  pending (a : Analyser σ τ) : Supply.pending (f a).supply = Supply.pending a.supply
  event (e : Event) : Simulates f (Analyser.notify (.event e)) (Analyser.notify (.event e))
  success : Simulates f (Analyser.notify .success) (Analyser.notify .success)
  mismatch (expected : String) :
    Simulates f (Analyser.mismatch expected) (Analyser.mismatch expected)
  advance : Simulates f Analyser.advance Analyser.advance

namespace Simulation

theorem ifNext (hf : Simulation f) (symbols : List Symbol) (h : Simulates f x y)
    (h' : Simulates f x' y') :
    Simulates f (Action.ifNext symbols x x') (Action.ifNext symbols y y') := by
  intro a
  unfold Action.ifNext
  rw [hf.lookahead]
  split
  · exact h a
  · exact h' a

theorem settle_eq (hf : Simulation f) (a : Analyser σ τ) (expected : String) (o : Outcome) :
    (f a).settle expected o = a.settle expected o := by
  cases o with
  | ok => rfl
  | error r =>
    unfold Analyser.settle Analyser.wrap Analyser.ruleError Analyser.message
    rw [hf.lookahead, hf.sourceName]

theorem bracket (hf : Simulation f) (r : Rule) (h : Simulates f x y) :
    Simulates f (Analyser.bracket r x) (Analyser.bracket r y) := by
  intro a
  unfold Analyser.bracket
  rw [hf.event (.enter r.label) a]
  rcases Analyser.notify (.event (.enter r.label)) a with ⟨_ | _, b⟩
  · rfl
  · dsimp only
    rw [h b]
    rcases x b with ⟨o, c⟩
    dsimp only
    rw [hf.event (.exit r.label) c]
    rcases Analyser.notify (.event (.exit r.label)) c with ⟨_ | _, d⟩
    · rfl
    · dsimp only
      rw [hf.settle_eq]

theorem accept (hf : Simulation f) (s : Symbol) :
    Simulates f (Analyser.accept s) (Analyser.accept s) := by
  intro a
  by_cases ha : a.lookahead.symbol = s
  · rw [Analyser.accept_of_eq ha, Analyser.accept_of_eq ((congrArg _ (hf.lookahead a)).trans ha),
      hf.lookahead]
    exact (hf.event _).andThen hf.advance a
  · rw [Analyser.accept_of_ne ha, Analyser.accept_of_ne (by rwa [hf.lookahead])]
    exact hf.mismatch _ a

theorem lockstep (hf : Simulation f) :
    Lockstep (fun _ => Simulates f : Phrase → Action σ τ → Action σ' τ' → Prop) where
  tooDeep _ := .raise _
  empty := .done
  unmet expected := hf.mismatch expected
  terminal s := hf.accept s
  rule h := hf.bracket _ h
  seq h h' := h.andThen h'
  alt h h' := hf.ifNext _ h h'
  star h h' := hf.ifNext _ (h.andThen h') .done

theorem checkRule (hf : Simulation f) (r : Rule) :
    Simulates f (Analyser.checkRule r) (Analyser.checkRule r) := by
  intro a
  unfold Analyser.checkRule Analyser.depthBound
  rw [hf.pending]
  exact hf.lockstep.follow _ _ a

/-- **It makes no difference to calls**, either. -/
theorem run (hf : Simulation f) (c : Call) : Simulates f c.run c.run := by
  cases c with
  | program => exact (hf.checkRule _).andThen ((hf.accept _).andThen hf.success)
  | rule r => exact hf.checkRule r
  | terminal s => exact hf.accept s

/-- Two ways to look at an analyser, one after the other. -/
theorem comp {σ₀ τ₀ : Type} [Supply σ₀] [Listener τ₀] {g : Analyser σ₀ τ₀ → Analyser σ τ}
    (hf : Simulation f) (hg : Simulation g) : Simulation (f ∘ g) where
  lookahead a := (hf.lookahead (g a)).trans (hg.lookahead a)
  sourceName a := (hf.sourceName (g a)).trans (hg.sourceName a)
  pending a := (hf.pending (g a)).trans (hg.pending a)
  event e := (hg.event e).trans (hf.event e)
  success := hg.success.trans hf.success
  mismatch expected := (hg.mismatch expected).trans (hf.mismatch expected)
  advance := hg.advance.trans hf.advance

end Simulation

end Simulation

/-! ## A calm sink hears what the journal holds -/

/-- To read the journal to a calm sink makes no difference. -/
theorem Analyser.simulation_replay {σ τ : Type} [Supply σ] [Listener τ] {s : τ} (hs : Calm s) :
    Simulation (replay (σ := σ) s) where
  lookahead _ := rfl
  sourceName _ := rfl
  pending _ := rfl
  event e j := notify_of_eq (hs.send j.sink.notices (.event e))
  success j := notify_of_eq (hs.send j.sink.notices .success)
  mismatch expected j := mismatch_of_eq
    (hs.send j.sink.notices (.mismatch j.lookahead (j.message expected j.lookahead)))
  advance := .advance fun j : Journal => sendAll j.notices s

/-- Two actions that do the same, the second to a sink that starts in the state
`s` and hears what the first writes into its journal. -/
def Action.Replays {σ τ : Type} [Listener τ] (s : τ) (x : Action σ Journal)
    (y : Action σ τ) : Prop :=
  ∀ j, y (j.replay s) = ((x j).1, (x j).2.replay s)

theorem Action.Replays.run {σ τ : Type} [Supply σ] [Listener τ] {s : τ} (hs : Calm s) (c : Call) :
    Replays s (σ := σ) c.run c.run := (Analyser.simulation_replay hs).run c

/-- **A calm sink hears what the journal holds**, and has no other part in the
call. -/
theorem Call.run_eq_replay {σ τ : Type} [Supply σ] [Listener τ] (c : Call) (a : Analyser σ τ)
    (hs : Calm a.sink) :
    c.run a = ((c.run a.journaled).1, (c.run a.journaled).2.replay a.sink) :=
  Action.Replays.run hs c a.journaled

end SyntaxChecker
