/-
This file gives scripts: lists of items that a system takes one after the other until
it fails at one. A script that fails ends there, one that goes well has taken every
item, and what a log shows of it belongs to the first items of the script.
-/

import Mathlib.Data.List.Basic
import Mathlib.Data.List.Forall2
import Mathlib.Tactic.Common

namespace Library

variable {Item State Entry : Type}

/-- The items are taken in order from one state to the other; `well` is whether all of them are. -/
inductive Script (takes fails : Item → State → State → Prop) :
    List Item → State → State → Bool → Prop
  | nil (state : State) : Script takes fails [] state state true
  | takes {item : Item} {rest : List Item} {before between after : State} {well : Bool}
      (first : takes item before between) (second : Script takes fails rest between after well) :
      Script takes fails (item :: rest) before after well
  | fails {item : Item} {rest : List Item} {before after : State} (last : fails item before after) :
      Script takes fails (item :: rest) before after false

namespace Script

variable {takes fails : Item → State → State → Prop} {items more : List Item}
  {before between after : State} {well : Bool}

theorem single {item : Item} (first : takes item before after) :
    Script takes fails [item] before after true :=
  .takes first (.nil after)

theorem append (first : Script takes fails items before between true)
    (second : Script takes fails more between after well) :
    Script takes fails (items ++ more) before after well := by
  generalize all : true = went at first
  induction first with
  | nil state => exact second
  | takes first _ inductionHypothesis => exact .takes first (inductionHypothesis second all)
  | fails last => cases all

/-- A script that fails does so however it goes on. -/
theorem append_fails (first : Script takes fails items before after false) (more : List Item) :
    Script takes fails (items ++ more) before after false := by
  generalize all : false = went at first
  induction first with
  | nil state => cases all
  | takes first _ inductionHypothesis => exact .takes first (inductionHypothesis all)
  | fails last => exact .fails last

/-- What every item ensures, whether it is taken or fails, a script of some items ensures. -/
theorem ensures {ensured : State → Prop} (script : Script takes fails items before after well)
    (ofTakes : ∀ item before after, takes item before after → ensured after)
    (ofFails : ∀ item before after, fails item before after → ensured after) :
    items = [] ∨ ensured after := by
  induction script with
  | nil state => exact .inl rfl
  | takes first second inductionHypothesis =>
    rcases inductionHypothesis with rfl | holds
    · cases second
      exact .inr (ofTakes _ _ _ first)
    · exact .inr holds
  | fails last => exact .inr (ofFails _ _ _ last)

/-- A log that an item which is taken extends by a good entry for it, and one that fails by an entry
for it or by none, is extended by entries for the first items, and by good ones for all items if all
are taken. -/
theorem logged {log : State → List Entry} {fits good : Entry → Item → Prop}
    (script : Script takes fails items before after well)
    (weakens : ∀ entry item, good entry item → fits entry item)
    (logsTakes : ∀ item before after, takes item before after →
      ∃ entry, log after = log before ++ [entry] ∧ good entry item)
    (logsFails : ∀ item before after, fails item before after →
      log after = log before ∨ ∃ entry, log after = log before ++ [entry] ∧ fits entry item) :
    ∃ put, log after = log before ++ put ∧ List.Forall₂ fits put (items.take put.length) ∧
      (well = true → List.Forall₂ good put items) := by
  induction script with
  | nil state => exact ⟨[], (List.append_nil _).symm, .nil, fun _ => .nil⟩
  | takes first _ inductionHypothesis =>
    obtain ⟨entry, here, good⟩ := logsTakes _ _ _ first
    obtain ⟨put, there, fit, all⟩ := inductionHypothesis
    refine ⟨entry :: put, ?_, .cons (weakens _ _ good) fit, fun went => .cons good (all went)⟩
    rw [there, here, List.append_assoc, List.singleton_append]
  | fails last =>
    rcases logsFails _ _ _ last with silent | ⟨entry, here, fit⟩
    · exact ⟨[], by rw [silent, List.append_nil], .nil, fun went => Bool.noConfusion went⟩
    · exact ⟨[entry], here, .cons fit .nil, fun went => Bool.noConfusion went⟩

end Script

end Library
