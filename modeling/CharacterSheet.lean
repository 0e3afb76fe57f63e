import CharacterSheet.Text.Blank
import CharacterSheet.Text.Numeral
import CharacterSheet.Text.Lowercase
import CharacterSheet.Json.Reader
import CharacterSheet.Json.Writer
import CharacterSheet.Json.Record
import CharacterSheet.Ability
import CharacterSheet.Attribute
import CharacterSheet.ItemKind
import CharacterSheet.Prerequisite.Tag
import CharacterSheet.Prerequisite.Authored
import CharacterSheet.Prerequisite.Load
import CharacterSheet.Prerequisite.Save
import CharacterSheet.Contributions
import CharacterSheet.Evaluation.Pass
import CharacterSheet.Evaluation.Markup
import CharacterSheet.Defense.Basic
import CharacterSheet.Compendium.Register
import CharacterSheet.Compendium.Order
import CharacterSheet.Proofs.Compendium.Links
import CharacterSheet.Proofs.Compendium.Loops
import CharacterSheet.Proofs.Compendium.Order
import CharacterSheet.Proofs.Evaluation.Asking
import CharacterSheet.Proofs.Evaluation.Diagnostics
import CharacterSheet.Proofs.Evaluation.Pass
import CharacterSheet.Proofs.Evaluation.LoopFree
import CharacterSheet.Proofs.Evaluation.Depth
import CharacterSheet.Proofs.Evaluation.Improvement
import CharacterSheet.Proofs.Evaluation.Counting
import CharacterSheet.Proofs.Evaluation.Gain
import CharacterSheet.Proofs.Evaluation.Shape
import CharacterSheet.Proofs.Evaluation.Supposition
import CharacterSheet.Proofs.Evaluation.LeastSupposition
import CharacterSheet.Proofs.Json.Record
import CharacterSheet.Proofs.Json.RoundTrip
import CharacterSheet.Proofs.Prerequisite.Authored
import CharacterSheet.Proofs.Prerequisite.Canonical
import CharacterSheet.Proofs.Prerequisite.Loaded
import CharacterSheet.Proofs.Prerequisite.RoundTrip
import CharacterSheet.Proofs.Evaluation.Accounting
import CharacterSheet.Proofs.Prerequisite.Unambiguous
import CharacterSheet.Proofs.Evaluation.Move
import CharacterSheet.Proofs.Prerequisite.Acceptance
import CharacterSheet.Proofs.Contributions
import CharacterSheet.Proofs.Evaluation.Reordering
import CharacterSheet.Proofs.Evaluation.Problems
import CharacterSheet.Proofs.Prerequisite.Conditions
import CharacterSheet.Proofs.Compendium.Items
import CharacterSheet.Proofs.Stowed
import CharacterSheet.Proofs.Item
import CharacterSheet.Proofs.Actor
import CharacterSheet.Proofs.Compendium.Mentions
import CharacterSheet.Proofs.Compendium.Register
import CharacterSheet.Proofs.Defense.Resemblance
import CharacterSheet.Proofs.Defense.Reordering
import CharacterSheet.Proofs.Defense.TraitBonuses
import CharacterSheet.Proofs.Defense.Breakdown
import CharacterSheet.Proofs.Tallies
import CharacterSheet.Proofs.Defense.Armor
import CharacterSheet.Proofs.Evaluation.Markup
