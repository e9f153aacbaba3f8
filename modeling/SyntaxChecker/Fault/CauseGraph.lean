import SyntaxChecker.Fault

/-!
# Cause graphs

The causes of faults in general make a graph: every fault has at most one
cause, and nothing keeps a fault from being, directly or by a detour, its own
cause. Here the faults are numbered, so that two faults that say the same are
still two.

A chain follows the causes from a fault on, and stops before it would meet a
fault again. There are no more faults on it than in the graph.
-/

namespace SyntaxChecker

/-- Finitely many faults, each with the number of its cause if it has one. -/
structure CauseGraph where
  entries : List (Fault × Option Nat)

namespace CauseGraph

/-- The number of the cause of the fault with the given number. -/
def cause? (g : CauseGraph) (i : Nat) : Option Nat := (g.entries[i]?).bind (·.2)

/-- The fault with the given number. -/
def fault? (g : CauseGraph) (i : Nat) : Option Fault := (g.entries[i]?).map (·.1)

/-- Follow the causes from a fault on, over at most `fuel` faults and over none
that was met before. -/
def follow (g : CauseGraph) : Nat → List Nat → Nat → List Nat
  | 0, _, _ => []
  | fuel + 1, met, i =>
    if i ∈ met then []
    else i :: match g.cause? i with
      | none => []
      | some j => g.follow fuel (i :: met) j

/-- The numbers on the chain of a fault, itself first. A chain without
repetition cannot be longer than the graph, so that many steps suffice, and one
more for a number outside it. -/
def chain (g : CauseGraph) (start : Nat) : List Nat :=
  g.follow (g.entries.length + 1) [] start

/-- The number at the far end of the chain of a fault. -/
def innermost (g : CauseGraph) (start : Nat) : Nat := (g.chain start).getLastD start

/-- The faults on the chain of a fault. -/
def faults (g : CauseGraph) (start : Nat) : List Fault := (g.chain start).filterMap g.fault?

/-- Nothing that was met before is met again. -/
theorem not_mem_follow_of_mem (g : CauseGraph) {fuel : Nat} {met : List Nat} {i k : Nat}
    (hk : k ∈ met) : k ∉ g.follow fuel met i := by
  induction fuel generalizing met i with
  | zero => simp [follow]
  | succ fuel ih =>
    unfold follow
    split
    · simp
    · next hi =>
      cases g.cause? i with
      | none => simpa using fun h : k = i => hi (h ▸ hk)
      | some j =>
        simp only [List.mem_cons, not_or]
        exact ⟨fun h => hi (h ▸ hk), ih (List.mem_cons_of_mem _ hk)⟩

/-- **A chain has no repetition**, whatever the shape of the graph. -/
theorem nodup_follow (g : CauseGraph) (fuel : Nat) (met : List Nat) (i : Nat) :
    (g.follow fuel met i).Nodup := by
  induction fuel generalizing met i with
  | zero => exact List.nodup_nil
  | succ fuel ih =>
    unfold follow
    split
    · exact List.nodup_nil
    · cases g.cause? i with
      | none => simp
      | some j =>
        exact List.nodup_cons.2 ⟨not_mem_follow_of_mem g (List.mem_cons_self ..), ih _ _⟩

end CauseGraph

end SyntaxChecker
