import CharacterSheet.Compendium.Register
import CharacterSheet.Proofs.Compendium.Items

/-!
# What a compendium keeps of its mentions

A compendium is built by mentioning entries, one at a time or two of which the first requires the
second. Of all mentions it keeps the first: the entries stand in the order in which they came up, and
what an entry requires in the order in which it was linked.

Entries and requirements grow in the same way, by putting behind all others what is not there yet, so
one induction serves both (`Compendium.view_ofMentions`).
-/

namespace CharacterSheet

namespace Mention

/-- The entries that are mentioned, in order. -/
def entries : Mention → List Entry
  | entry e => [e]
  | link dependent requirement => [dependent, requirement]

/-- What an entry requires by the mention. -/
def requirement? (dependent : Entry) : Mention → Option Entry
  | entry _ => none
  | link a b => if a = dependent then some b else none

end Mention

namespace Compendium

/-- The compendium after one more mention. -/
def mention (c : Compendium) : Mention → Compendium
  | .entry entry => c.add entry
  | .link dependent requirement => c.link dependent requirement

/-- The compendium that is built by mentions from the empty one. -/
def ofMentions (mentions : List Mention) : Compendium :=
  mentions.foldl mention empty

variable {a b entry : Entry}

/-! ## One mention -/

theorem entries_mention (c : Compendium) (m : Mention) :
    (c.mention m).entries = m.entries.foldl (fun kept a => appendNew a kept) c.entries := by
  cases m <;> rfl

/-- A link adds to what its first entry requires, unless that is required already. -/
theorem requirements_link (c : Compendium) (a b entry : Entry) :
    (c.link a b).requirements entry =
      if a = entry then appendNew b (c.requirements entry) else c.requirements entry := by
  by_cases hold : (a, b) ∈ c.links
  · have hlinks : (c.link a b).links = c.links := by simp [link, appendNew, hold]
    rw [requirements, hlinks, ← requirements]
    split
    · next heq =>
      rw [appendNew, if_pos (mem_requirements.mpr (heq ▸ hold))]
    · rfl
  · have hlinks : (c.link a b).links = c.links ++ [(a, b)] := by simp [link, appendNew, hold]
    rw [requirements, hlinks, List.filter_append, List.map_append, ← requirements]
    split
    · next heq =>
      have hnew : b ∉ c.requirements entry := fun hb => hold (heq ▸ mem_requirements.mp hb)
      simp [appendNew, hnew, heq]
    · next hne => simp [hne]

theorem requirements_mention (c : Compendium) (m : Mention) (entry : Entry) :
    (c.mention m).requirements entry =
      (m.requirement? entry).toList.foldl (fun kept a => appendNew a kept)
        (c.requirements entry) := by
  cases m with
  | entry e => rfl
  | link dependent requirement =>
    rw [mention, requirements_link, Mention.requirement?]
    split <;> rfl

/-! ## All mentions -/

/-- A view of compendia to which each mention adds what it says, unless that is there already, has all
that was said, as it came up first. -/
theorem view_ofMentions {α : Type} [DecidableEq α] (view : Compendium → List α)
    (said : Mention → List α) (start : view empty = [])
    (step : ∀ c m, view (c.mention m) = (said m).foldl (fun kept a => appendNew a kept) (view c))
    (mentions : List Mention) : view (ofMentions mentions) = (mentions.flatMap said).eraseDups := by
  have hview : ∀ c, view (mentions.foldl mention c) =
      (mentions.flatMap said).foldl (fun kept a => appendNew a kept) (view c) := by
    induction mentions with
    | nil => exact fun c => rfl
    | cons m rest ih =>
      intro c
      rw [List.foldl_cons, ih, step, List.flatMap_cons, List.foldl_append]
  rw [ofMentions, hview, start, foldl_appendNew]

theorem entries_ofMentions (mentions : List Mention) :
    (ofMentions mentions).entries = (mentions.flatMap Mention.entries).eraseDups :=
  view_ofMentions entries Mention.entries rfl entries_mention mentions

theorem mem_entries_ofMentions {mentions : List Mention} :
    entry ∈ (ofMentions mentions).entries ↔ ∃ m ∈ mentions, entry ∈ m.entries := by
  rw [entries_ofMentions, List.mem_eraseDups, List.mem_flatMap]

theorem requirements_ofMentions (mentions : List Mention) (entry : Entry) :
    (ofMentions mentions).requirements entry =
      (mentions.filterMap (Mention.requirement? entry)).eraseDups := by
  rw [List.filterMap_eq_flatMap_toList]
  exact view_ofMentions (requirements · entry) (fun m => (m.requirement? entry).toList) rfl
    (fun c m => requirements_mention c m entry) mentions

theorem requires_ofMentions {mentions : List Mention} (h : .link a b ∈ mentions) :
    (ofMentions mentions).Requires a b := by
  rw [Requires, ← mem_requirements, requirements_ofMentions, List.mem_eraseDups]
  exact List.mem_filterMap.mpr ⟨.link a b, h, by simp [Mention.requirement?]⟩

end Compendium

end CharacterSheet
