import SyntaxChecker.Event
import SyntaxChecker.Proofs.Grammar.Predictive

/-!
# Derivation trees

A derivation tree has tokens for its leaves and rules for its nodes, and the
trees below a node stand in the order of the rule's production. A repetition
adds no node of its own: the statements of a list and the separators between
them are all children of the one node for the list. Which sequences of trees a
phrase allows is `Phrase.Builds`.

A tree gives two sequences. Its `Tree.tokens` are the leaves in order, the text
that it is a derivation of; its `Tree.events` are the depth-first walk through
it, which also tells where every rule begins and ends.

Trees add nothing to what a phrase derives (`Phrase.derives_iff_builds`), and
in a predictive phrase they are determined by their tokens
(`Phrase.Builds.unique`): **the grammar is unambiguous**. The reason is
`Phrase.Builds.eq_or_continues`, about two readings of a phrase at one place of
a text. They are the same, or the one that stops first stops in front of a
continuer.
-/

namespace SyntaxChecker

/-- A token that is nothing but its symbol. -/
def Token.bare (s : Symbol) : Token := ⟨s, "", 0, 0⟩

theorem map_symbol_bare (w : List Symbol) : (w.map Token.bare).map Token.symbol = w := by
  rw [List.map_map]
  exact List.map_id w

/-- A derivation tree. -/
inductive Tree where
  | leaf (token : Token)
  | node (r : Rule) (children : List Tree)
  deriving Repr

namespace Tree

mutual

/-- The leaves of a tree, in order. -/
def tokens : Tree → List Token
  | leaf t => [t]
  | node _ children => tokensAll children

/-- The leaves of several trees, in order. -/
def tokensAll : List Tree → List Token
  | [] => []
  | t :: rest => t.tokens ++ tokensAll rest

end

mutual

/-- The depth-first walk through a tree. -/
def events : Tree → List Event
  | leaf t => [.terminal t]
  | node r children => .enter r.label :: (eventsAll children ++ [.exit r.label])

/-- The walks through several trees, one after the other. -/
def eventsAll : List Tree → List Event
  | [] => []
  | t :: rest => t.events ++ eventsAll rest

end

/-- The symbols of the leaves of several trees. -/
def symbolsAll (trees : List Tree) : List Symbol := (tokensAll trees).map Token.symbol

@[simp] theorem tokensAll_append (xs ys : List Tree) :
    tokensAll (xs ++ ys) = tokensAll xs ++ tokensAll ys := by
  induction xs with
  | nil => rfl
  | cons x xs ih => rw [List.cons_append, tokensAll, tokensAll, ih, List.append_assoc]

@[simp] theorem eventsAll_append (xs ys : List Tree) :
    eventsAll (xs ++ ys) = eventsAll xs ++ eventsAll ys := by
  induction xs with
  | nil => rfl
  | cons x xs ih => rw [List.cons_append, eventsAll, eventsAll, ih, List.append_assoc]

@[simp] theorem tokensAll_singleton (t : Tree) : tokensAll [t] = t.tokens := List.append_nil _

@[simp] theorem tokensAll_leaf (t : Token) : tokensAll [leaf t] = [t] := rfl

@[simp] theorem tokensAll_node (r : Rule) (children : List Tree) :
    tokensAll [node r children] = tokensAll children := List.append_nil _

@[simp] theorem eventsAll_leaf (t : Token) : eventsAll [leaf t] = [.terminal t] := rfl

@[simp] theorem eventsAll_node (r : Rule) (children : List Tree) :
    eventsAll [node r children]
      = .enter r.label :: (eventsAll children ++ [.exit r.label]) := List.append_nil _

@[simp] theorem symbolsAll_append (xs ys : List Tree) :
    symbolsAll (xs ++ ys) = symbolsAll xs ++ symbolsAll ys := by
  rw [symbolsAll, tokensAll_append, List.map_append]
  rfl

mutual

/-- The terminals of the walk through a tree are its leaves. -/
theorem terminals_events : (t : Tree) → t.events.filterMap Event.token? = t.tokens
  | leaf _ => rfl
  | node _ children => by
    rw [events, tokens, List.filterMap_cons_none rfl, List.filterMap_append,
      terminals_eventsAll children]
    exact List.append_nil _

theorem terminals_eventsAll :
    (xs : List Tree) → (eventsAll xs).filterMap Event.token? = tokensAll xs
  | [] => rfl
  | t :: rest => by
    rw [eventsAll, tokensAll, List.filterMap_append, terminals_events t, terminals_eventsAll rest]

end

end Tree

open SyntaxChecker.Tree

/-! ## What a phrase allows -/

/-- The sequences of trees that a phrase allows. -/
inductive Phrase.Builds : Phrase → List Tree → Prop
  | empty : Builds .empty []
  | terminal {s : Symbol} {t : Token} : t.symbol = s → Builds (.terminal s) [leaf t]
  | rule {r : Rule} {xs : List Tree} : Builds r.production xs → Builds (.rule r) [node r xs]
  | seq {p q : Phrase} {xs ys : List Tree} :
      Builds p xs → Builds q ys → Builds (.seq p q) (xs ++ ys)
  | altLeft {p q : Phrase} {xs : List Tree} : Builds p xs → Builds (.alt p q) xs
  | altRight {p q : Phrase} {xs : List Tree} : Builds q xs → Builds (.alt p q) xs
  | starNil {p : Phrase} : Builds (.star p) []
  | starCons {p : Phrase} {xs ys : List Tree} :
      Builds p xs → Builds (.star p) ys → Builds (.star p) (xs ++ ys)

/-- A derivation tree for a rule. -/
def Tree.DerivationOf (r : Rule) (tree : Tree) : Prop := (Phrase.rule r).Builds [tree]

namespace Phrase

/-- What trees spell is derived. -/
theorem Builds.derives {p : Phrase} {xs : List Tree} (h : p.Builds xs) :
    p.Derives (symbolsAll xs) := by
  induction h with
  | empty => exact .empty
  | terminal ht =>
    subst ht
    exact .terminal _
  | rule _ ih =>
    rw [symbolsAll, tokensAll_node]
    exact .rule ih
  | seq _ _ ihp ihq =>
    rw [symbolsAll_append]
    exact .seq ihp ihq
  | altLeft _ ih => exact .altLeft ih
  | altRight _ ih => exact .altRight ih
  | starNil => exact .starNil
  | starCons _ _ ihp ihs =>
    rw [symbolsAll_append]
    exact .starCons ihp ihs

/-- **What is derived is spelled by a tree**, whatever tokens carry the
symbols. -/
theorem Derives.exists_builds {p : Phrase} {w : List Symbol} (h : p.Derives w)
    {ts : List Token} (hts : ts.map Token.symbol = w) :
    ∃ xs, p.Builds xs ∧ tokensAll xs = ts := by
  induction h generalizing ts with
  | empty =>
    obtain rfl := List.map_eq_nil_iff.1 hts
    exact ⟨[], .empty, rfl⟩
  | terminal s =>
    obtain ⟨t, rfl, ht⟩ := List.map_eq_singleton_iff.1 hts
    exact ⟨[leaf t], .terminal ht, rfl⟩
  | @rule r w _ ih =>
    obtain ⟨xs, hxs, rfl⟩ := ih hts
    exact ⟨[node r xs], .rule hxs, tokensAll_node r xs⟩
  | seq _ _ ihp ihq =>
    obtain ⟨us, vs, rfl, hus, hvs⟩ := List.map_eq_append_iff.1 hts
    obtain ⟨xs, hxs, rfl⟩ := ihp hus
    obtain ⟨ys, hys, rfl⟩ := ihq hvs
    exact ⟨xs ++ ys, .seq hxs hys, tokensAll_append xs ys⟩
  | altLeft _ ih =>
    obtain ⟨xs, hxs, rfl⟩ := ih hts
    exact ⟨xs, .altLeft hxs, rfl⟩
  | altRight _ ih =>
    obtain ⟨xs, hxs, rfl⟩ := ih hts
    exact ⟨xs, .altRight hxs, rfl⟩
  | starNil =>
    obtain rfl := List.map_eq_nil_iff.1 hts
    exact ⟨[], .starNil, rfl⟩
  | starCons _ _ ihp ihs =>
    obtain ⟨us, vs, rfl, hus, hvs⟩ := List.map_eq_append_iff.1 hts
    obtain ⟨xs, hxs, rfl⟩ := ihp hus
    obtain ⟨ys, hys, rfl⟩ := ihs hvs
    exact ⟨xs ++ ys, .starCons hxs hys, tokensAll_append xs ys⟩

/-- A phrase derives the symbols of some tokens exactly if it builds a tree
from the tokens. -/
theorem derives_iff_builds {p : Phrase} {ts : List Token} :
    p.Derives (ts.map Token.symbol) ↔ ∃ xs, p.Builds xs ∧ tokensAll xs = ts := by
  constructor
  · exact fun h => h.exists_builds rfl
  · rintro ⟨xs, hxs, rfl⟩
    exact hxs.derives

/-! ## Two readings of one text -/

/-- A sequence of tokens begins with one of the given symbols. -/
def Opens (symbols : List Symbol) (ts : List Token) : Prop :=
  ∃ t rest, ts = t :: rest ∧ t.symbol ∈ symbols

theorem Opens.mono {ss ss' : List Symbol} {ts : List Token} (h : Opens ss ts)
    (hs : ∀ s ∈ ss, s ∈ ss') : Opens ss' ts := by
  obtain ⟨t, rest, rfl, ht⟩ := h
  exact ⟨t, rest, rfl, hs _ ht⟩

theorem Opens.append {ss : List Symbol} {ts : List Token} (h : Opens ss ts) (us : List Token) :
    Opens ss (ts ++ us) := by
  obtain ⟨t, rest, rfl, ht⟩ := h
  exact ⟨t, rest ++ us, rfl, ht⟩

/-- Two sets without a common symbol do not open the same text. -/
theorem Opens.false_of_apart {ss ss' : List Symbol} {ts : List Token} (h : Opens ss ts)
    (h' : Opens ss' ts) (hs : ∀ s ∈ ss, s ∉ ss') : False := by
  obtain ⟨t, rest, rfl, ht⟩ := h
  obtain ⟨t', rest', heq, ht'⟩ := h'
  cases heq
  exact hs _ ht ht'

/-- What a phrase builds spells nothing, and then the phrase is nullable, or it
opens with one of the starters. -/
theorem Builds.nullable_or_opens {p : Phrase} {xs : List Tree} (h : p.Builds xs) :
    (tokensAll xs = [] ∧ p.nullable = true) ∨ Opens p.starters (tokensAll xs) := by
  cases hts : tokensAll xs with
  | nil => exact .inl ⟨rfl, h.derives.nullable (by rw [symbolsAll, hts]; rfl)⟩
  | cons t rest =>
    exact .inr ⟨t, rest, rfl, h.derives.mem_starters (by rw [symbolsAll, hts]; rfl)⟩

theorem Builds.opens {p : Phrase} {xs : List Tree} (h : p.Builds xs)
    (hp : p.nullable = false) : Opens p.starters (tokensAll xs) :=
  h.nullable_or_opens.resolve_left fun hnil => by simp [hp] at hnil

/-- If the text opens with symbols that are no starters of a part, the part
spells nothing, and they open what stands behind it. -/
theorem Builds.opens_rest {p : Phrase} {ss : List Symbol} {xs : List Tree}
    {u : List Token} (h : p.Builds xs) (hss : ∀ s ∈ ss, s ∉ p.starters)
    (hu : Opens ss (tokensAll xs ++ u)) : p.nullable = true ∧ Opens ss u := by
  rcases h.nullable_or_opens with ⟨hnil, hp⟩ | hopen
  · rw [hnil] at hu
    exact ⟨hp, hu⟩
  · exact (hu.false_of_apart (hopen.append u) hss).elim

/-- What stands behind the second part of a sequence, when the first part is
continued there. -/
theorem Builds.opens_continuers_seq {p q : Phrase} {ys : List Tree} {u : List Token}
    (h : q.Builds ys) (hpq : ∀ s ∈ p.continuers, s ∉ q.starters)
    (hu : Opens p.continuers (tokensAll ys ++ u)) : Opens (Phrase.seq p q).continuers u := by
  obtain ⟨hnull, hu⟩ := h.opens_rest hpq hu
  refine hu.mono (fun s hs => ?_)
  rw [continuers, if_pos hnull]
  exact List.mem_append_right _ hs

theorem mem_continuers_seq {p q : Phrase} {s : Symbol} (h : s ∈ q.continuers) :
    s ∈ (Phrase.seq p q).continuers := by
  rw [continuers]
  split
  · exact List.mem_append_left _ h
  · exact h

theorem mem_continuers_alt_left {p q : Phrase} {s : Symbol} (h : s ∈ p.continuers) :
    s ∈ (Phrase.alt p q).continuers := by
  rw [continuers]
  split
  · exact List.mem_append_left _ (List.mem_append_right _ h)
  · exact List.mem_append_left _ h

theorem mem_continuers_alt_right {p q : Phrase} {s : Symbol} (h : s ∈ q.continuers) :
    s ∈ (Phrase.alt p q).continuers := by
  rw [continuers]
  split
  · exact List.mem_append_right _ h
  · exact List.mem_append_right _ h

/-- The two sides of a choice read the same text only if the right one spells
nothing there; the left one then starts behind it. -/
theorem Builds.opens_continuers_alt {p q : Phrase} {xs ys : List Tree} {u v : List Token}
    (hx : p.Builds xs) (hy : q.Builds ys) (hp : (Phrase.alt p q).Predictive)
    (h : tokensAll xs ++ u = tokensAll ys ++ v) : Opens (Phrase.alt p q).continuers v := by
  obtain ⟨-, -, hapart, hnull⟩ := hp
  have hopen := (hx.opens hnull).append u
  rw [h] at hopen
  obtain ⟨hq, hv⟩ := hy.opens_rest hapart hopen
  refine hv.mono (fun s hs => ?_)
  rw [continuers, if_pos hq, List.append_assoc]
  exact List.mem_append_left _ hs

/-- A repetition that goes on starts its body again. -/
theorem Builds.opens_continuers_star {p : Phrase} {xs : List Tree} (hx : p.Builds xs)
    (hnull : p.nullable = false) (u : List Token) :
    Opens (Phrase.star p).continuers (tokensAll xs ++ u) :=
  ((hx.opens hnull).append u).mono fun _ => List.mem_append_left _

/-- **Two readings of a phrase at one place of a text** are the same, or one of
them stops in front of a continuer. -/
theorem Builds.eq_or_continues {p : Phrase} {xs ys : List Tree} {u v : List Token}
    (hx : p.Builds xs) (hp : p.Predictive) (hy : p.Builds ys)
    (h : tokensAll xs ++ u = tokensAll ys ++ v) :
    xs = ys ∨ Opens p.continuers u ∨ Opens p.continuers v := by
  induction hx generalizing ys u v with
  | empty =>
    cases hy
    exact .inl rfl
  | terminal _ =>
    cases hy
    cases h
    exact .inl rfl
  | @rule r xs _ ih =>
    cases hy with
    | @rule _ ys hy =>
      rw [tokensAll_node, tokensAll_node] at h
      rcases ih r.predictive_production hy h with rfl | hu | hv
      · exact .inl rfl
      · exact .inr (.inl (hu.mono r.continuers_production))
      · exact .inr (.inr (hv.mono r.continuers_production))
  | @seq p q xs₁ xs₂ _ hx₂ ihp ihq =>
    obtain ⟨hpp, hpq, hapart, -⟩ := hp
    cases hy with
    | @seq _ _ ys₁ ys₂ hy₁ hy₂ =>
      rw [tokensAll_append, tokensAll_append, List.append_assoc, List.append_assoc] at h
      -- the first parts decide, unless they are the same
      rcases ihp hpp hy₁ h with rfl | hu | hv
      · rcases ihq hpq hy₂ (List.append_cancel_left h) with rfl | hu | hv
        · exact .inl rfl
        · exact .inr (.inl (hu.mono fun _ => mem_continuers_seq))
        · exact .inr (.inr (hv.mono fun _ => mem_continuers_seq))
      · exact .inr (.inl (hx₂.opens_continuers_seq hapart hu))
      · exact .inr (.inr (hy₂.opens_continuers_seq hapart hv))
  | altLeft hx ih =>
    cases hy with
    | altLeft hy =>
      rcases ih hp.1 hy h with rfl | hu | hv
      · exact .inl rfl
      · exact .inr (.inl (hu.mono fun _ => mem_continuers_alt_left))
      · exact .inr (.inr (hv.mono fun _ => mem_continuers_alt_left))
    | altRight hy => exact .inr (.inr (hx.opens_continuers_alt hy hp h))
  | altRight hx ih =>
    cases hy with
    | altLeft hy => exact .inr (.inl (hy.opens_continuers_alt hx hp h.symm))
    | altRight hy =>
      rcases ih hp.2.1 hy h with rfl | hu | hv
      · exact .inl rfl
      · exact .inr (.inl (hu.mono fun _ => mem_continuers_alt_right))
      · exact .inr (.inr (hv.mono fun _ => mem_continuers_alt_right))
  | starNil =>
    cases hy with
    | starNil => exact .inl rfl
    | @starCons _ ys₁ ys₂ hy₁ _ =>
      rw [tokensAll_append, List.append_assoc] at h
      have hopen := hy₁.opens_continuers_star hp.2.2 (tokensAll ys₂ ++ v)
      rw [← h] at hopen
      exact .inr (.inl hopen)
  | @starCons p xs₁ xs₂ hx₁ hx₂ ihp ihs =>
    cases hy with
    | starNil =>
      rw [tokensAll_append, List.append_assoc] at h
      have hopen := hx₁.opens_continuers_star hp.2.2 (tokensAll xs₂ ++ u)
      rw [h] at hopen
      exact .inr (.inr hopen)
    | @starCons _ ys₁ ys₂ hy₁ hy₂ =>
      have hcont : ∀ s ∈ p.continuers, s ∈ (Phrase.star p).continuers :=
        fun _ => List.mem_append_right _
      rw [tokensAll_append, tokensAll_append, List.append_assoc, List.append_assoc] at h
      -- as in a sequence of the body and the rest of the repetition
      rcases ihp hp.1 hy₁ h with rfl | hu | hv
      · rcases ihs hp hy₂ (List.append_cancel_left h) with rfl | hu | hv
        · exact .inl rfl
        · exact .inr (.inl hu)
        · exact .inr (.inr hv)
      · exact .inr (.inl ((hx₂.opens_rest hp.2.1 hu).2.mono hcont))
      · exact .inr (.inr ((hy₂.opens_rest hp.2.1 hv).2.mono hcont))

/-- **Trees of a predictive phrase are determined by their tokens.** -/
theorem Builds.unique {p : Phrase} {xs ys : List Tree} (hx : p.Builds xs)
    (hp : p.Predictive) (hy : p.Builds ys) (h : tokensAll xs = tokensAll ys) : xs = ys := by
  rcases hx.eq_or_continues (u := []) (v := []) hp hy (by rw [h]) with rfl | hu | hv
  · rfl
  · obtain ⟨_, _, hnil, _⟩ := hu
    cases hnil
  · obtain ⟨_, _, hnil, _⟩ := hv
    cases hnil

/-- **What continues a sentence is a continuer.** -/
theorem Derives.mem_continuers {p : Phrase} {v w : List Symbol} {s : Symbol}
    (hv : p.Derives v) (hp : p.Predictive) (hw : p.Derives (v ++ s :: w)) :
    s ∈ p.continuers := by
  obtain ⟨xs, hxs, hv⟩ := hv.exists_builds (map_symbol_bare v)
  obtain ⟨ys, hys, hw⟩ := hw.exists_builds (map_symbol_bare (v ++ s :: w))
  rw [List.map_append, ← hv, List.map_cons] at hw
  have htext : tokensAll xs ++ Token.bare s :: w.map Token.bare = tokensAll ys ++ [] := by
    rw [hw, List.append_nil]
  -- the longer sentence comes to the end of the text, so the shorter one is continued
  rcases hxs.eq_or_continues hp hys htext with rfl | hu | hnil
  · have hlen := congrArg List.length hw
    rw [List.length_append, List.length_cons] at hlen
    omega
  · obtain ⟨t, rest, heq, ht⟩ := hu
    cases heq
    exact ht
  · obtain ⟨_, _, hnil, _⟩ := hnil
    cases hnil

end Phrase

end SyntaxChecker
