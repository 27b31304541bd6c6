import CardGrove.Proofs.Forest.Traversal
import CardGrove.Proofs.Game.Doubles
import Mathlib.Data.List.Nodup

/-! Any forest. Its lists may hold a card several times, on several sides or in several trees, and
trees may hold cards that are not in the arena; as long as a place in the arena is that of one card,
both traversals list whatever the trees or the arena hold, and each card once. -/
namespace CardGrove

theorem count_distinctBy {α β : Type} [DecidableEq α] [DecidableEq β] {key : α → β} {as : List α}
    (h : ∀ a ∈ as, ∀ b ∈ as, key a = key b → a = b) (a : α) :
    (distinctBy key as).count a = if a ∈ as then 1 else 0 := by
  have hsub := distinctBy_sublist key as
  have hmem : a ∈ distinctBy key as ↔ a ∈ as := by
    refine ⟨fun ha => hsub.subset ha, fun ha => ?_⟩
    have hkey : key a ∈ (distinctBy key as).map key :=
      mem_map_distinctBy.2 (List.mem_map_of_mem ha)
    obtain ⟨b, hb, heq⟩ := List.mem_map.1 hkey
    exact h b (hsub.subset hb) a ha heq ▸ hb
  rw [(List.Nodup.of_map key (nodup_map_distinctBy key as)).count]
  exact if_congr hmem rfl rfl

namespace Forest

/-- A place in the arena is that of one card, wherever the forest holds it. -/
def Consistent (f : Forest) : Prop :=
  ∀ c ∈ f.members ++ f.arena, ∀ d ∈ f.members ++ f.arena, c.index = d.index → c = d

instance (f : Forest) : Decidable f.Consistent := by
  unfold Consistent
  infer_instance

variable {f : Forest} {c : Instance}

theorem mem_displayed (h : f.Consistent) :
    c ∈ (Tree.readingOrder f.trees).flatMap Tree.shown ++ f.members ++ f.unattached ↔
      c ∈ f.members ++ f.arena := by
  rw [List.mem_append, List.mem_append, List.mem_append]
  constructor
  · rintro ((hc | hc) | hc)
    · exact .inl (mem_members_of_mem_shown hc)
    · exact .inl hc
    · exact .inr (List.mem_filter.1 hc).1
  · rintro (hc | hc)
    · exact .inl (.inr hc)
    · cases f.mem_members_or_unattached hc with
      | inl hm =>
        obtain ⟨d, hd, heq⟩ := List.mem_map.1 hm
        have hdc := h d (List.mem_append_left _ hd) c (List.mem_append_right _ hc) heq
        exact .inl (.inr (hdc ▸ hd))
      | inr hu => exact .inr hu

theorem count_scoringOrder (h : f.Consistent) (c : Instance) :
    f.scoringOrder.count c = if c ∈ f.members ++ f.arena then 1 else 0 :=
  count_distinctBy h c

theorem count_displayOrder (h : f.Consistent) (c : Instance) :
    f.displayOrder.count c = if c ∈ f.members ++ f.arena then 1 else 0 := by
  have hsame := count_distinctBy
    (fun a ha b hb => h a ((mem_displayed h).1 ha) b ((mem_displayed h).1 hb)) c
  exact hsame.trans (if_congr (mem_displayed h) rfl rfl)

theorem unattached_eq (h : f.Consistent) :
    f.unattached = f.arena.filter fun c => ∀ t ∈ f.trees, c ∉ t.members := by
  refine List.filter_congr fun c hc => decide_eq_decide.2 ⟨fun hm t ht hct => ?_, fun ht hm => ?_⟩
  · exact hm (List.mem_map_of_mem (List.mem_flatMap.2 ⟨t, ht, hct⟩))
  · obtain ⟨d, hd, heq⟩ := List.mem_map.1 hm
    have hdc := h d (List.mem_append_left _ hd) c (List.mem_append_right _ hc) heq
    obtain ⟨t, htree, hdt⟩ := List.mem_flatMap.1 hd
    exact ht t htree (hdc ▸ hdt)

/-- Both traversals list every card that some tree or the arena holds once, and no other; the
unattached cards are those of the arena that no tree holds, in the arena's order. Nothing fails
where the anchors' numbers are doubles. -/
theorem traversals_cover (f : Forest) (h : f.Consistent) :
    (∀ c, f.scoringOrder.count c =
      if (∃ t ∈ f.trees, c ∈ t.members) ∨ c ∈ f.arena then 1 else 0) ∧
    (∀ c, f.displayOrder.count c =
      if (∃ t ∈ f.trees, c ∈ t.members) ∨ c ∈ f.arena then 1 else 0) ∧
    f.scoringOrder.Perm f.displayOrder ∧
    f.unattached = f.arena.filter (fun c => ∀ t ∈ f.trees, c ∉ t.members) ∧
    ((∀ t ∈ f.trees, t.anchor.box.AllDouble) → f.displayOverflows = false) := by
  have hmem (c : Instance) :
      c ∈ f.members ++ f.arena ↔ (∃ t ∈ f.trees, c ∈ t.members) ∨ c ∈ f.arena := by
    rw [List.mem_append, members, List.mem_flatMap]
  have hscored (c : Instance) := (count_scoringOrder h c).trans (if_congr (hmem c) rfl rfl)
  have hshown (c : Instance) := (count_displayOrder h c).trans (if_congr (hmem c) rfl rfl)
  refine ⟨hscored, hshown, ?_, unattached_eq h, displayOverflows_eq_false⟩
  exact List.perm_iff_count.2 fun c => (hscored c).trans (hshown c).symm

def crookedOak : Instance :=
  ⟨0, .ofCorners (.double 0.0) (.double 0.0) (.double 10.0) (.double 10.0), "Oak:a", "Oak", "a",
    none⟩

def crookedFern : Instance :=
  ⟨1, .ofCorners (.double (-10.0)) (.double 0.0) (.double 0.0) (.double 10.0), "Fern:a", "Fern",
    "a", none⟩

/-- The fern is listed twice on the right of the oak, where it does not lie, and anchors a tree with
the oak below. The oak is not in the arena. A moss is on its own. -/
def crooked : Forest :=
  { arena := [{ crookedFern with index := 2, label := "Moss:a", id := "Moss" }, crookedFern]
    trees := [{ anchor := crookedOak, right := [crookedFern, crookedFern] },
      { anchor := crookedFern, bottom := [crookedOak] }] }

theorem traversals_cover_crooked :
    crooked.Consistent ∧ (∀ t ∈ crooked.trees, t.anchor.box.AllDouble) ∧
    crooked.displayOverflows = false ∧ crooked.scoringOrder.Perm crooked.displayOrder ∧
    crooked.displayOrder.count crookedOak = 1 ∧
    (crooked.trees.map fun t => (t.shownSide .right).length) = [0, 0] ∧
    crooked.unattached.map (·.index) = [2] := by
  have h : crooked.Consistent := by decide +kernel
  have hdouble : ∀ t ∈ crooked.trees, t.anchor.box.AllDouble := by decide +kernel
  obtain ⟨-, hshown, hperm, -, hruns⟩ := traversals_cover crooked h
  refine ⟨h, hdouble, hruns hdouble, hperm, (hshown crookedOak).trans (if_pos (.inl ?_)),
    by decide +kernel, by decide +kernel⟩
  exact ⟨_, List.mem_cons_self, Tree.mem_members.2 (.inl rfl)⟩

end Forest
end CardGrove
