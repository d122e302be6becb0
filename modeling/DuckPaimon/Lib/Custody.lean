/-
Custody of tokens: new tokens are kept or destroyed, and what is kept is given away once, all at a time, or
destroyed as well. However these moves follow each other, a token that was given away is not destroyed, and one
that was not is destroyed or still kept.
-/
import Mathlib.Data.List.Nodup

/-- The tokens that were got, those that are kept, and those that were destroyed and given away; `closed` from the
end on at which they are given away, or not. -/
structure Custody (α : Type) where
  got : List α := []
  kept : List α := []
  destroyed : List α := []
  given : List α := []
  closed : Bool := false

namespace Custody

variable {α : Type}

/-- What happens to tokens. -/
inductive Moves (c : Custody α) : Custody α → Prop
  | takes {new : List α} (fresh : (c.got ++ new).Nodup) :
      Moves c { c with got := c.got ++ new, kept := c.kept ++ new }
  | rejects {new : List α} (fresh : (c.got ++ new).Nodup) :
      Moves c { c with got := c.got ++ new, destroyed := c.destroyed ++ new }
  | gives (first : c.closed = false) : Moves c { c with kept := [], given := c.given ++ c.kept, closed := true }
  | destroys : Moves c { c with destroyed := c.destroyed ++ c.kept, closed := true }
  | closes : Moves c { c with closed := true }

/-- Every token is kept, destroyed or given away; what was given away is neither kept nor destroyed. Before the end
nothing is given away, and nothing that is kept was destroyed. -/
structure Sound (c : Custody α) : Prop where
  nodup : c.got.Nodup
  kept : ∀ a ∈ c.kept, a ∈ c.got
  covered : ∀ a ∈ c.got, a ∈ c.kept ∨ a ∈ c.destroyed ∨ a ∈ c.given
  destroyed : ∀ a ∈ c.destroyed, a ∈ c.got ∧ a ∉ c.given
  given : ∀ a ∈ c.given, a ∈ c.got ∧ a ∉ c.kept
  whole : c.closed = false → c.given = [] ∧ ∀ a ∈ c.kept, a ∉ c.destroyed

variable {c c' : Custody α}

theorem sound_start {closed : Bool} : Sound ({ closed } : Custody α) :=
  ⟨List.nodup_nil, nofun, nofun, nofun, nofun, fun _ => ⟨rfl, nofun⟩⟩

/-- A new token is none of the old ones. -/
theorem not_mem_of_fresh {got new : List α} (fresh : (got ++ new).Nodup) {a : α} (ha : a ∈ new) : a ∉ got :=
  fun hold => (List.nodup_append.1 fresh).2.2 a hold a ha rfl

theorem Sound.takes (h : Sound c) {new : List α} (fresh : (c.got ++ new).Nodup) :
    Sound { c with got := c.got ++ new, kept := c.kept ++ new } := by
  refine ⟨fresh, fun a ha => ?_, fun a ha => ?_, fun a ha => ?_, fun a ha => ?_, fun hopen => ?_⟩
  · exact List.mem_append.2 ((List.mem_append.1 ha).imp_left (h.kept a))
  · rcases List.mem_append.1 ha with ha | ha
    · exact (h.covered a ha).imp_left (List.mem_append_left _)
    · exact .inl (List.mem_append_right _ ha)
  · exact ⟨List.mem_append_left _ (h.destroyed a ha).1, (h.destroyed a ha).2⟩
  · obtain ⟨hgot, hkept⟩ := h.given a ha
    refine ⟨List.mem_append_left _ hgot, fun hmem => ?_⟩
    exact (List.mem_append.1 hmem).elim hkept fun hnew => not_mem_of_fresh fresh hnew hgot
  · obtain ⟨hgiven, hkept⟩ := h.whole hopen
    refine ⟨hgiven, fun a ha hdestroyed => ?_⟩
    rcases List.mem_append.1 ha with ha | ha
    · exact hkept a ha hdestroyed
    · exact not_mem_of_fresh fresh ha (h.destroyed a hdestroyed).1

theorem Sound.rejects (h : Sound c) {new : List α} (fresh : (c.got ++ new).Nodup) :
    Sound { c with got := c.got ++ new, destroyed := c.destroyed ++ new } := by
  refine ⟨fresh, fun a ha => List.mem_append_left _ (h.kept a ha), fun a ha => ?_, fun a ha => ?_, fun a ha => ?_,
    fun hopen => ?_⟩
  · rcases List.mem_append.1 ha with ha | ha
    · exact (h.covered a ha).imp_right (Or.imp_left (List.mem_append_left _))
    · exact .inr (.inl (List.mem_append_right _ ha))
  · rcases List.mem_append.1 ha with ha | ha
    · exact ⟨List.mem_append_left _ (h.destroyed a ha).1, (h.destroyed a ha).2⟩
    · exact ⟨List.mem_append_right _ ha, fun hgiven => not_mem_of_fresh fresh ha (h.given a hgiven).1⟩
  · exact ⟨List.mem_append_left _ (h.given a ha).1, (h.given a ha).2⟩
  · obtain ⟨hgiven, hkept⟩ := h.whole hopen
    refine ⟨hgiven, fun a ha hdestroyed => ?_⟩
    exact (List.mem_append.1 hdestroyed).elim (hkept a ha) fun hnew => not_mem_of_fresh fresh hnew (h.kept a ha)

theorem Sound.gives (h : Sound c) (first : c.closed = false) :
    Sound { c with kept := [], given := c.given ++ c.kept, closed := true } := by
  obtain ⟨hnone, hkept⟩ := h.whole first
  refine ⟨h.nodup, nofun, fun a ha => ?_, fun a ha => ?_, fun a ha => ?_, nofun⟩
  · rcases h.covered a ha with hkept | hdestroyed | hgiven
    · exact .inr (.inr (List.mem_append_right _ hkept))
    · exact .inr (.inl hdestroyed)
    · exact .inr (.inr (List.mem_append_left _ hgiven))
  · refine ⟨(h.destroyed a ha).1, fun hgiven => ?_⟩
    exact (List.mem_append.1 hgiven).elim (h.destroyed a ha).2 fun hmem => hkept a hmem ha
  · have ha : a ∈ c.given ++ c.kept := ha
    rw [hnone, List.nil_append] at ha
    exact ⟨h.kept a ha, List.not_mem_nil⟩

theorem Sound.destroys (h : Sound c) : Sound { c with destroyed := c.destroyed ++ c.kept, closed := true } := by
  refine ⟨h.nodup, h.kept, fun a ha => ?_, fun a ha => ?_, h.given, nofun⟩
  · exact (h.covered a ha).imp_right (Or.imp_left (List.mem_append_left _))
  · rcases List.mem_append.1 ha with ha | ha
    · exact h.destroyed a ha
    · exact ⟨h.kept a ha, fun hgiven => (h.given a hgiven).2 ha⟩

/-- Every move keeps custody sound. -/
theorem Sound.moves (h : Sound c) (hmoves : Moves c c') : Sound c' := by
  cases hmoves with
  | takes fresh => exact h.takes fresh
  | rejects fresh => exact h.rejects fresh
  | gives first => exact h.gives first
  | destroys => exact h.destroys
  | closes => exact ⟨h.nodup, h.kept, h.covered, h.destroyed, h.given, nofun⟩

/-- Once what is still kept is destroyed, a token was either given away or destroyed. -/
theorem Sound.settled (h : Sound c) {a : α} (ha : a ∈ c.got) :
    (a ∈ c.given ∧ a ∉ c.destroyed ++ c.kept) ∨ (a ∈ c.destroyed ++ c.kept ∧ a ∉ c.given) := by
  by_cases hgiven : a ∈ c.given
  · refine .inl ⟨hgiven, fun hmem => ?_⟩
    exact (List.mem_append.1 hmem).elim (fun hdestroyed => (h.destroyed a hdestroyed).2 hgiven) (h.given a hgiven).2
  · refine .inr ⟨?_, hgiven⟩
    rcases h.covered a ha with hkept | hdestroyed | hgiven'
    · exact List.mem_append_right _ hkept
    · exact List.mem_append_left _ hdestroyed
    · exact absurd hgiven' hgiven

end Custody
