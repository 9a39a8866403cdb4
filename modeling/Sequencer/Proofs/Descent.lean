import Mathlib.Data.Finset.Prod
import Sequencer.Yaml.Document

/-!
# Merging that comes to no end

Merging follows the keys that two documents have in common. It comes to no end iff they have paths
of keys in common of every length (`mergesForever_iff`), which no two documents have of which one is
nested to some depth only. What is looked for is one path that is longer than there are pairs of
nodes: where walks are made among finitely many, those that go on so long go on for ever
(`walks_of_walks_card`).
-/

namespace Sequencer.Yaml

/-! ## Walks among finitely many -/

section

variable {α : Type} {step : α → α → Prop}

/-- So many steps can be made from here. -/
def Walks (step : α → α → Prop) : Nat → α → Prop
  | 0, _ => True
  | n + 1, a => ∃ b, step a b ∧ Walks step n b

theorem walks_of_succ {n : Nat} {a : α} (h : Walks step (n + 1) a) : Walks step n a := by
  induction n generalizing a with
  | zero => trivial
  | succ n ih =>
    obtain ⟨b, hstep, hwalks⟩ := h
    exact ⟨b, hstep, ih hwalks⟩

theorem walks_of_le {m n : Nat} (h : m ≤ n) {a : α} (hwalks : Walks step n a) :
    Walks step m a := by
  induction h with
  | refl => exact hwalks
  | step _ ih => exact ih (walks_of_succ hwalks)

/-- If one more step can always be made, all further steps can. -/
theorem walks_of_stable {k : Nat} (hstable : ∀ a, Walks step k a → Walks step (k + 1) a) (n : Nat)
    {a : α} (h : Walks step k a) : Walks step n a := by
  have hmore : ∀ j a, Walks step (k + j) a → Walks step (k + j + 1) a := by
    intro j
    induction j with
    | zero => exact hstable
    | succ j ih =>
      rintro a ⟨b, hstep, hwalks⟩
      exact ⟨b, hstep, ih b hwalks⟩
  have hall : ∀ j, Walks step (k + j) a := by
    intro j
    induction j with
    | zero => exact h
    | succ j ih => exact hmore j a ih
  exact walks_of_le (Nat.le_add_left n k) (hall n)

/-- Steps are only made from some finitely many places. More steps than there are places can be
made iff any number of steps can. -/
theorem walks_of_walks_card {places : Finset α} (hplaces : ∀ a b, step a b → a ∈ places)
    {a : α} (h : Walks step (places.card + 1) a) (n : Nat) : Walks step n a := by
  classical
  -- The places that so many further steps can be made from are fewer and fewer, until no more
  -- are lost.
  let lasting (k : Nat) : Finset α := places.filter fun b => Walks step (k + 1) b
  obtain ⟨k, hk, hstable⟩ : ∃ k, k ≤ places.card ∧
      ∀ b, Walks step (k + 1) b → Walks step (k + 2) b := by
    by_contra hnone
    have hshrinks : ∀ k, k ≤ places.card + 1 → (lasting k).card + k ≤ places.card := by
      intro k hk
      induction k with
      | zero => exact Finset.card_filter_le _ _
      | succ k ih =>
        obtain ⟨b, hb, hlost⟩ : ∃ b, Walks step (k + 1) b ∧ ¬ Walks step (k + 2) b := by
          by_contra hkeep
          refine hnone ⟨k, by omega, fun b hb => ?_⟩
          by_contra hlost
          exact hkeep ⟨b, hb, hlost⟩
        have hmem : b ∈ places := by
          obtain ⟨c, hstep, -⟩ := hb
          exact hplaces b c hstep
        have hless : lasting (k + 1) ⊂ lasting k := by
          refine (Finset.ssubset_iff_of_subset ?_).mpr ⟨b, ?_, ?_⟩
          · exact Finset.monotone_filter_right _ fun c _ hc => walks_of_succ hc
          · exact Finset.mem_filter.mpr ⟨hmem, hb⟩
          · exact fun hin => hlost (Finset.mem_filter.mp hin).2
        have hcard := Finset.card_lt_card hless
        have hbefore := ih (by omega)
        omega
    have hend := hshrinks (places.card + 1) (Nat.le_refl _)
    omega
  exact walks_of_stable hstable n (walks_of_le (by omega) h)

end

namespace Document

/-! ## Paths -/

/-- The node at the end of a path of keys from a node. -/
def follow? (d : Document) (id : NodeId) : (path : List Scalar) → Option NodeId
  | [] => some id
  | key :: rest => (d.under? id key).bind fun inner => d.follow? inner rest

/-- There is a node at the end of this path of keys. -/
def Has (d : Document) (path : List Scalar) : Prop := (d.follow? d.root path).isSome = true

theorem lt_size_of_under? {d : Document} {id inner : NodeId} {key : Scalar}
    (h : d.under? id key = some inner) : id < d.nodes.size := by
  by_contra hout
  have hnone : d.nodes[id]? = none := Array.getElem?_eq_none (Nat.le_of_not_lt hout)
  unfold under? nodeAt at h
  rw [hnone, if_neg (by decide)] at h
  cases h

theorem exists_pair_of_under? {d : Document} {id inner : NodeId} {key : Scalar}
    (h : d.under? id key = some inner) :
    ∃ pair ∈ pairsOf d.nodes id, keyOf d.nodes pair.1 = key := by
  unfold under? at h
  split at h
  · obtain ⟨pair, hfind, -⟩ := Option.map_eq_some_iff.mp h
    refine ⟨pair, List.mem_reverse.mp (List.mem_of_find?_eq_some hfind), ?_⟩
    simpa using List.find?_some hfind
  · cases h

variable {base overlay : Document}

/-- Under some key of both of these nodes lie those. -/
def Below (base overlay : Document) (p q : NodeId × NodeId) : Prop :=
  ∃ key, base.under? p.1 key = some q.1 ∧ overlay.under? p.2 key = some q.2

theorem descends_iff_walks {b o : NodeId} {steps : Nat} :
    descends base overlay b o steps = true ↔ Walks (Below base overlay) steps (b, o) := by
  induction steps generalizing b o with
  | zero => exact iff_of_true rfl trivial
  | succ steps ih =>
    rw [descends, List.any_eq_true]
    constructor
    · rintro ⟨pair, -, hpair⟩
      dsimp only at hpair
      split at hpair
      · rename_i b' o' hb ho
        exact ⟨(b', o'), ⟨_, hb, ho⟩, ih.mp hpair⟩
      · cases hpair
    · rintro ⟨⟨b', o'⟩, ⟨key, hb, ho⟩, hwalks⟩
      obtain ⟨pair, hmem, rfl⟩ := exists_pair_of_under? ho
      refine ⟨pair, hmem, ?_⟩
      dsimp only at hb ho ⊢
      rw [hb, ho]
      exact ih.mpr hwalks

theorem walks_iff_follow {b o : NodeId} {n : Nat} :
    Walks (Below base overlay) n (b, o) ↔ ∃ path, path.length = n ∧
      (base.follow? b path).isSome = true ∧ (overlay.follow? o path).isSome = true := by
  induction n generalizing b o with
  | zero => exact iff_of_true trivial ⟨[], rfl, rfl, rfl⟩
  | succ n ih =>
    constructor
    · rintro ⟨⟨b', o'⟩, ⟨key, hb, ho⟩, hwalks⟩
      obtain ⟨path, hlength, hpath, hpath'⟩ := ih.mp hwalks
      refine ⟨key :: path, by rw [List.length_cons, hlength], ?_, ?_⟩
      · rw [follow?, hb]
        exact hpath
      · rw [follow?, ho]
        exact hpath'
    · rintro ⟨_ | ⟨key, path⟩, hlength, hpath, hpath'⟩
      · cases hlength
      rw [follow?] at hpath hpath'
      cases hb : base.under? b key with
      | none =>
        rw [hb] at hpath
        cases hpath
      | some b' =>
        cases ho : overlay.under? o key with
        | none =>
          rw [ho] at hpath'
          cases hpath'
        | some o' =>
          rw [hb] at hpath
          rw [ho] at hpath'
          exact ⟨(b', o'), ⟨key, hb, ho⟩,
            ih.mpr ⟨path, Nat.succ.inj hlength, hpath, hpath'⟩⟩

/-- Merging comes to no end iff there are paths of every length in common. -/
theorem mergesForever_iff :
    base.mergesForever overlay = true ↔
      ∀ n, ∃ path, path.length = n ∧ base.Has path ∧ overlay.Has path := by
  unfold mergesForever
  constructor
  · intro h n
    have hcard : (Finset.range base.nodes.size ×ˢ Finset.range overlay.nodes.size).card =
        base.nodes.size * overlay.nodes.size := by
      rw [Finset.card_product, Finset.card_range, Finset.card_range]
    have hplaces : ∀ p q, Below base overlay p q →
        p ∈ Finset.range base.nodes.size ×ˢ Finset.range overlay.nodes.size := by
      rintro p q ⟨key, hb, ho⟩
      exact Finset.mem_product.mpr ⟨Finset.mem_range.mpr (lt_size_of_under? hb),
        Finset.mem_range.mpr (lt_size_of_under? ho)⟩
    rw [← hcard] at h
    exact walks_iff_follow.mp (walks_of_walks_card hplaces (descends_iff_walks.mp h) n)
  · intro h
    exact descends_iff_walks.mpr (walks_iff_follow.mpr (h _))

end Document

end Sequencer.Yaml
