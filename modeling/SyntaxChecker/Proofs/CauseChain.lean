import Mathlib.Data.List.Chain
import Mathlib.Data.List.Perm.Subperm
import SyntaxChecker.Fault.CauseGraph

/-!
# Chains of causes

Causes need not lead to an end. A fault may be its own cause, and it may lead into a circle that
it is not on itself. To follow the causes of a fault is therefore a search, which remembers what
it has met, and of which nothing but a bound on its steps says that it stops.

Its result can be said without the search. It is the one list that begins with the fault, has
no repetition, goes on with the cause of each of its members, and ends where there is no cause
or one that is on the list already (`CauseGraph.chain_is_unique`). The search has enough steps
because whatever has a cause is in the graph, and of that there is not more than the graph holds.
That a new fault in front adds one link and leaves the far end alone needs no search any more:
the longer list is such a list again.
-/

namespace SyntaxChecker.CauseGraph

/-- **The chain of causes of a fault**, as a list of numbers. -/
structure IsCauseChain (g : CauseGraph) (start : ℕ) (chain : List ℕ) : Prop where
  head : chain.head? = some start
  nodup : chain.Nodup
  /-- Each next fault is the cause of the one before. -/
  linked : chain.IsChain fun i j => g.cause? i = some j
  /-- The last fault has no cause, or one that was met. -/
  stops : ∀ i ∈ chain.getLast?, ∀ j ∈ g.cause? i, j ∈ chain

/-- Every cause is in the graph. -/
def Closed (g : CauseGraph) : Prop := ∀ i, ∀ j ∈ g.cause? i, j < g.entries.length

/-- The graph with a new fault, whose cause is there already. -/
def raiseFrom (g : CauseGraph) (f : Fault) (cause : ℕ) : CauseGraph :=
  ⟨g.entries ++ [(f, some cause)]⟩

variable {g : CauseGraph} {fuel i j start : ℕ} {met : List ℕ}

/-! ## The search -/

/-- Only what is in the graph has a cause. -/
theorem lt_of_cause? (h : g.cause? i = some j) : i < g.entries.length := by
  obtain ⟨entry, hentry, -⟩ := Option.bind_eq_some_iff.1 h
  exact (List.getElem?_eq_some_iff.1 hentry).1

theorem follow_of_mem (h : i ∈ met) : g.follow fuel met i = [] := by
  cases fuel with
  | zero => rfl
  | succ fuel => rw [follow, if_pos h]

theorem follow_of_none (hi : i ∉ met) (h : g.cause? i = none) :
    g.follow (fuel + 1) met i = [i] := by
  rw [follow, if_neg hi, h]

theorem follow_of_some (hi : i ∉ met) (h : g.cause? i = some j) :
    g.follow (fuel + 1) met i = i :: g.follow fuel (i :: met) j := by
  rw [follow, if_neg hi, h]

/-- A search begins where it is told to. -/
theorem head?_follow (hi : i ∉ met) : (g.follow (fuel + 1) met i).head? = some i := by
  cases h : g.cause? i with
  | none => rw [follow_of_none hi h]; rfl
  | some j => rw [follow_of_some hi h]; rfl

theorem eq_of_head?_follow {k : ℕ} (h : (g.follow fuel met i).head? = some k) : k = i := by
  by_cases hi : i ∈ met
  · rw [follow_of_mem hi] at h
    cases h
  · cases fuel with
    | zero => cases h
    | succ fuel => exact Option.some.inj (h.symm.trans (head?_follow hi))

/-- A search goes from a fault to its cause. -/
theorem isChain_follow (g : CauseGraph) (fuel : ℕ) (met : List ℕ) (i : ℕ) :
    (g.follow fuel met i).IsChain fun i j => g.cause? i = some j := by
  induction fuel generalizing met i with
  | zero => exact .nil
  | succ fuel ih =>
    by_cases hi : i ∈ met
    · rw [follow_of_mem hi]
      exact .nil
    · cases h : g.cause? i with
      | none =>
        rw [follow_of_none hi h]
        exact .singleton i
      | some j =>
        rw [follow_of_some hi h]
        refine (ih (i :: met) j).cons fun k hk => ?_
        rw [eq_of_head?_follow hk]
        exact h

/-- What was met is in the graph, so there is not more of it than the graph holds. -/
theorem length_met_le (hnodup : met.Nodup) (hmet : ∀ k ∈ met, k < g.entries.length) :
    met.length ≤ g.entries.length := by
  have hsubset : met ⊆ List.range g.entries.length := fun k hk => List.mem_range.2 (hmet k hk)
  simpa using (List.subperm_of_subset hnodup hsubset).length_le

/-- **A search with enough steps stops of itself**: where there is no cause, or one that was
met. -/
theorem stops_follow (hi : i ∉ met) (hnodup : met.Nodup)
    (hmet : ∀ k ∈ met, k < g.entries.length) (hfuel : g.entries.length < fuel + met.length) :
    ∀ k ∈ (g.follow fuel met i).getLast?, ∀ j ∈ g.cause? k, j ∈ met ∨ j ∈ g.follow fuel met i := by
  induction fuel generalizing met i with
  | zero =>
    have hle := length_met_le hnodup hmet
    omega
  | succ fuel ih =>
    cases h : g.cause? i with
    | none =>
      rw [follow_of_none hi h]
      rintro k hk j hj
      obtain rfl : i = k := Option.some.inj hk
      rw [h] at hj
      cases hj
    | some j =>
      have hnodup' : (i :: met).Nodup := List.nodup_cons.2 ⟨hi, hnodup⟩
      have hmet' : ∀ k ∈ i :: met, k < g.entries.length :=
        List.forall_mem_cons.2 ⟨lt_of_cause? h, hmet⟩
      have hle := length_met_le hnodup' hmet'
      rw [List.length_cons] at hle
      rw [follow_of_some hi h]
      by_cases hj : j ∈ i :: met
      · -- the circle is closed
        rw [follow_of_mem hj]
        rintro k hk j' hj'
        obtain rfl : i = k := Option.some.inj hk
        obtain rfl : j = j' := Option.some.inj (h.symm.trans hj')
        rcases List.mem_cons.1 hj with rfl | hmem
        · exact .inr List.mem_cons_self
        · exact .inl hmem
      · obtain ⟨fuel, rfl⟩ : ∃ n, fuel = n + 1 := Nat.exists_eq_succ_of_ne_zero (by omega)
        have hrest := ih hj hnodup' hmet' (by rw [List.length_cons]; omega)
        obtain ⟨rest, hrest_eq⟩ : ∃ rest, g.follow (fuel + 1) (i :: met) j = j :: rest :=
          List.head?_eq_some_iff.1 (head?_follow hj)
        rw [hrest_eq] at hrest ⊢
        rw [List.getLast?_cons_cons]
        intro k hk j' hj'
        rcases hrest k hk j' hj' with hmem | hmem
        · rcases List.mem_cons.1 hmem with rfl | hmet
          · exact .inr List.mem_cons_self
          · exact .inl hmet
        · exact .inr (List.mem_cons_of_mem i hmem)

/-- **The search finds a chain of causes**, in every graph and from every fault on. -/
theorem isCauseChain_follow (start : ℕ) (hfuel : g.entries.length < fuel) :
    g.IsCauseChain start (g.follow fuel [] start) := by
  obtain ⟨fuel, rfl⟩ : ∃ n, fuel = n + 1 := Nat.exists_eq_succ_of_ne_zero (by omega)
  refine ⟨head?_follow List.not_mem_nil, g.nodup_follow _ _ _, g.isChain_follow _ _ _, ?_⟩
  intro k hk j hj
  exact (stops_follow List.not_mem_nil List.nodup_nil (List.forall_mem_nil _) hfuel k hk j
    hj).resolve_left List.not_mem_nil

theorem isCauseChain_chain (g : CauseGraph) (start : ℕ) : g.IsCauseChain start (g.chain start) :=
  isCauseChain_follow start (Nat.lt_succ_self _)

/-! ## The only one -/

/-- Where nothing has two successors, of two ways from one place one is the beginning of the
other. -/
theorem prefix_or_prefix {R : ℕ → ℕ → Prop} (hR : ∀ i j k, R i j → R i k → j = k)
    {l l' : List ℕ} (h : l.IsChain R) (h' : l'.IsChain R) (hhead : l.head? = l'.head?) :
    l <+: l' ∨ l' <+: l := by
  induction l generalizing l' with
  | nil => exact .inl (List.nil_prefix)
  | cons a l ih =>
    cases l' with
    | nil => cases hhead
    | cons b l' =>
      obtain rfl : a = b := Option.some.inj hhead
      rw [List.prefix_cons_inj, List.prefix_cons_inj]
      cases l with
      | nil => exact .inl List.nil_prefix
      | cons c l =>
        cases l' with
        | nil => exact .inr List.nil_prefix
        | cons d l' =>
          exact ih h.tail h'.tail (congrArg some (hR a c d h.rel h'.rel))

namespace IsCauseChain

variable {l l' : List ℕ}

/-- A chain of causes cannot be continued. -/
theorem eq_of_prefix (h : g.IsCauseChain start l) (h' : g.IsCauseChain start l') (hl : l <+: l') :
    l = l' := by
  obtain ⟨rest, rfl⟩ := hl
  cases rest with
  | nil => exact (List.append_nil l).symm
  | cons j rest =>
    obtain ⟨tail, rfl⟩ := List.head?_eq_some_iff.1 h.head
    have hlast := List.getLast?_eq_some_getLast (List.cons_ne_nil start tail)
    have hcause := (List.isChain_append.1 h'.linked).2.2 _ hlast j rfl
    have hmet := h.stops _ hlast j hcause
    exact absurd rfl ((List.nodup_append.1 h'.nodup).2.2 j hmet j List.mem_cons_self)

/-- **There is only one chain of causes.** -/
theorem unique (h : g.IsCauseChain start l) (h' : g.IsCauseChain start l') : l = l' := by
  have hcause : ∀ i j k, g.cause? i = some j → g.cause? i = some k → j = k :=
    fun _ _ _ hj hk => Option.some.inj (hj.symm.trans hk)
  rcases prefix_or_prefix hcause h.linked h'.linked (h.head.trans h'.head.symm) with hl | hl
  · exact h.eq_of_prefix h' hl
  · exact (h'.eq_of_prefix h hl).symm

/-- **One link in front.** In another graph, which does not differ along the chain, a fault has
the start of the chain for its cause. -/
theorem cons {g' : CauseGraph} {k : ℕ} (h : g.IsCauseChain start l)
    (hsame : ∀ i ∈ l, g'.cause? i = g.cause? i) (hk : k ∉ l) (hcause : g'.cause? k = some start) :
    g'.IsCauseChain k (k :: l) := by
  obtain ⟨tail, rfl⟩ := List.head?_eq_some_iff.1 h.head
  refine ⟨rfl, List.nodup_cons.2 ⟨hk, h.nodup⟩, ?_, ?_⟩
  · refine .cons_cons hcause (h.linked.imp_of_mem_imp fun i j hi _ hij => ?_)
    rw [hsame i hi]
    exact hij
  · rw [List.getLast?_cons_cons]
    intro i hi j hj
    rw [hsame i (List.mem_of_getLast? hi)] at hj
    exact List.mem_cons_of_mem k (h.stops i hi j hj)

end IsCauseChain

theorem isCauseChain_iff {l : List ℕ} : g.IsCauseChain start l ↔ l = g.chain start :=
  ⟨fun h => h.unique (g.isCauseChain_chain start), fun h => h ▸ g.isCauseChain_chain start⟩

/-! ## The far end and the faults -/

/-- The far end is the last on the chain. -/
theorem getLast?_chain (g : CauseGraph) (start : ℕ) :
    (g.chain start).getLast? = some (g.innermost start) := by
  obtain ⟨tail, htail⟩ := List.head?_eq_some_iff.1 (g.isCauseChain_chain start).head
  rw [innermost, htail, List.getLast?_cons, List.getLastD_cons, List.getLastD_eq_getLast?]

/-- In a closed graph nothing leads out of it. -/
theorem lt_of_mem_chain (hg : g.Closed) (hstart : start < g.entries.length) :
    ∀ i ∈ g.chain start, i < g.entries.length := by
  obtain ⟨hhead, -, hlinked, -⟩ := g.isCauseChain_chain start
  generalize g.chain start = l at hhead hlinked
  induction l generalizing start with
  | nil => exact List.forall_mem_nil _
  | cons i l ih =>
    obtain rfl : i = start := Option.some.inj hhead
    refine List.forall_mem_cons.2 ⟨hstart, ?_⟩
    cases l with
    | nil => exact List.forall_mem_nil _
    | cons j l => exact ih (hg i j hlinked.rel) rfl hlinked.tail

/-- **The faults on a chain** are those with its numbers, link by link. -/
theorem map_faults (hg : g.Closed) (hstart : start < g.entries.length) :
    (g.faults start).map some = (g.chain start).map g.fault? := by
  have hlt := lt_of_mem_chain hg hstart
  unfold faults
  generalize g.chain start = l at hlt
  induction l with
  | nil => rfl
  | cons i l ih =>
    obtain ⟨hi, hl⟩ := List.forall_mem_cons.1 hlt
    have hfault : g.fault? i = some (g.entries[i]).1 := by
      rw [fault?, List.getElem?_eq_getElem hi]
      rfl
    rw [List.filterMap_cons_some hfault, List.map_cons, List.map_cons, ih hl, hfault]

/-! ## A fault in front -/

section RaiseFrom

variable (f : Fault)

theorem cause?_raiseFrom_of_lt (cause : ℕ) (hi : i < g.entries.length) :
    (g.raiseFrom f cause).cause? i = g.cause? i := by
  rw [cause?, raiseFrom, List.getElem?_append_left hi]
  rfl

theorem fault?_raiseFrom_of_lt (cause : ℕ) (hi : i < g.entries.length) :
    (g.raiseFrom f cause).fault? i = g.fault? i := by
  rw [fault?, raiseFrom, List.getElem?_append_left hi]
  rfl

theorem cause?_raiseFrom_length (g : CauseGraph) (cause : ℕ) :
    (g.raiseFrom f cause).cause? g.entries.length = some cause := by
  rw [cause?, raiseFrom, List.getElem?_concat_length]
  rfl

theorem fault?_raiseFrom_length (g : CauseGraph) (cause : ℕ) :
    (g.raiseFrom f cause).fault? g.entries.length = some f := by
  rw [fault?, raiseFrom, List.getElem?_concat_length]
  rfl

/-- The chain of a new fault is that of its cause with one link in front. -/
theorem chain_raiseFrom (hg : g.Closed) (hstart : start < g.entries.length) :
    (g.raiseFrom f start).chain g.entries.length = g.entries.length :: g.chain start := by
  have hlt := lt_of_mem_chain hg hstart
  refine (isCauseChain_iff.1 ((g.isCauseChain_chain start).cons (fun i hi => ?_) ?_ ?_)).symm
  · exact cause?_raiseFrom_of_lt f start (hlt i hi)
  · exact fun hmem => Nat.lt_irrefl _ (hlt _ hmem)
  · exact cause?_raiseFrom_length f g start

theorem faults_raiseFrom (hg : g.Closed) (hstart : start < g.entries.length) :
    (g.raiseFrom f start).faults g.entries.length = f :: g.faults start := by
  rw [faults, chain_raiseFrom f hg hstart, List.filterMap_cons_some (fault?_raiseFrom_length f g _)]
  exact congrArg (f :: ·) (List.filterMap_congr fun i hi =>
    fault?_raiseFrom_of_lt f start (lt_of_mem_chain hg hstart i hi))

end RaiseFrom

/-- A link in front leaves the far end where it is. -/
theorem innermost_of_chain_eq_cons {g' : CauseGraph} {k : ℕ}
    (h : g'.chain k = k :: g.chain start) : g'.innermost k = g.innermost start := by
  obtain ⟨tail, htail⟩ := List.head?_eq_some_iff.1 (g.isCauseChain_chain start).head
  have hlast := g'.getLast?_chain k
  rw [h, htail, List.getLast?_cons_cons, ← htail, getLast?_chain] at hlast
  exact (Option.some.inj hlast).symm

/-- The fault at the far end of an error whose chain is in the graph. -/
theorem fault?_innermost (hg : g.Closed) (hstart : start < g.entries.length) {r : Raised}
    (hr : r.chain = g.faults start) : g.fault? (g.innermost start) = some r.innermost := by
  have hlast := congrArg List.getLast? (map_faults hg hstart)
  rw [← hr, List.getLast?_map, List.getLast?_map, Raised.getLast?_chain, getLast?_chain] at hlast
  exact (Option.some.inj hlast).symm

/-- **The chain of causes is unique**, and it is found in every graph, with circles or without,
and from every fault on; to search any longer changes nothing. The far end is its last link, and
a report has its links in order or, innermost first, in the reverse order.

A new fault, raised because of the first on a chain, is one link in front of the same chain, and
the far end stays. That is what an error on its way out goes through when it leaves a rule. It
does not matter where the fault comes from: to give the start of a chain as the cause to any fault
that is not on it, and had another cause perhaps, comes to the same. -/
theorem chain_is_unique (g : CauseGraph) (start : ℕ) :
    (∀ l, g.IsCauseChain start l ↔ l = g.chain start)
      ∧ (∀ fuel, g.entries.length < fuel → g.follow fuel [] start = g.chain start)
      ∧ (g.chain start).getLast? = some (g.innermost start)
      ∧ (g.Closed → start < g.entries.length →
        (g.faults start).map some = (g.chain start).map g.fault?
          ∧ formatChain (g.faults start) false
            = "\n".intercalate ((g.faults start).map Fault.message)
          ∧ formatChain (g.faults start) true
            = "\n".intercalate ((g.faults start).reverse.map Fault.message)
          ∧ ∀ f : Fault, let g' := g.raiseFrom f start
            let k := g.entries.length
            g'.chain k = k :: g.chain start ∧ g'.innermost k = g.innermost start
              ∧ ∀ r : Raised, r.chain = g.faults start →
                (Raised.because f r).chain = g'.faults k
                  ∧ g.fault? (g.innermost start) = some r.innermost)
      ∧ ∀ (g' : CauseGraph) (k : ℕ), (∀ i ∈ g.chain start, g'.cause? i = g.cause? i) →
        k ∉ g.chain start → g'.cause? k = some start →
          g'.chain k = k :: g.chain start ∧ g'.innermost k = g.innermost start := by
  refine ⟨fun l => isCauseChain_iff, fun fuel hfuel => ?_, g.getLast?_chain start,
    fun hg hstart => ⟨map_faults hg hstart, rfl, rfl, fun f => ?_⟩, fun g' k hsame hk hcause => ?_⟩
  · exact isCauseChain_iff.1 (isCauseChain_follow start hfuel)
  · have hchain := chain_raiseFrom f hg hstart
    refine ⟨hchain, innermost_of_chain_eq_cons hchain, fun r hr =>
      ⟨?_, fault?_innermost hg hstart hr⟩⟩
    rw [Raised.chain_because, hr, faults_raiseFrom f hg hstart]
  · have hchain := isCauseChain_iff.1 ((g.isCauseChain_chain start).cons hsame hk hcause)
    exact ⟨hchain.symm, innermost_of_chain_eq_cons hchain.symm⟩

/-- The first of three faults leads into a circle of the others, and a rule is left because of
it. In another graph the third fault has no cause, and is given the first one. -/
theorem chain_is_unique_circle :
    let a := Fault.malformed "a"
    let b := Fault.system "b"
    let c := Fault.malformed "c"
    let g : CauseGraph := ⟨[(a, some 1), (b, some 2), (c, some 1)]⟩
    let f := Fault.grammar ⟨"f", none, some 7⟩
    let r : Raised := ⟨a, [b, c]⟩
    let h : CauseGraph := ⟨[(a, some 1), (b, some 1), (c, none)]⟩
    let h' : CauseGraph := ⟨[(a, some 1), (b, some 1), (c, some 0)]⟩
    g.Closed ∧ 0 < g.entries.length ∧ g.entries.length < 9 ∧ r.chain = g.faults 0
      ∧ (∀ l, g.IsCauseChain 0 l ↔ l = [0, 1, 2])
      ∧ g.follow 9 [] 0 = [0, 1, 2] ∧ g.innermost 0 = 2
      ∧ formatChain (g.faults 0) true = "c\nb\na"
      ∧ (g.raiseFrom f 0).chain 3 = [3, 0, 1, 2] ∧ (g.raiseFrom f 0).innermost 3 = 2
      ∧ (Raised.because f r).chain = (g.raiseFrom f 0).faults 3
      ∧ (∀ i ∈ h.chain 0, h'.cause? i = h.cause? i) ∧ 2 ∉ h.chain 0 ∧ h'.cause? 2 = some 0
      ∧ h'.chain 2 = [2, 0, 1] ∧ h'.innermost 2 = 1 := by
  intro a b c g f r h h'
  have hg : g.Closed := by
    intro i j hj
    match i with
    | 0 | 1 | 2 => cases hj; decide
    | i + 3 => cases hj
  obtain ⟨hunique, hfuel, -, hclosed, -⟩ := chain_is_unique g 0
  obtain ⟨-, -, hformat, hnew⟩ := hclosed hg (by decide)
  obtain ⟨hchain, hinner, hraised⟩ := hnew f
  have hr : r.chain = g.faults 0 := by decide
  obtain ⟨-, -, -, -, hcons⟩ := chain_is_unique h 0
  have hsame : ∀ i ∈ h.chain 0, h'.cause? i = h.cause? i := by decide
  have hfirst : 2 ∉ h.chain 0 := by decide
  obtain ⟨hchain', hinner'⟩ := hcons h' 2 hsame hfirst rfl
  exact ⟨hg, by decide, by decide, hr, hunique, hfuel 9 (by decide), rfl, hformat, hchain, hinner,
    (hraised r hr).1, hsame, hfirst, rfl, hchain', hinner'⟩

end SyntaxChecker.CauseGraph
