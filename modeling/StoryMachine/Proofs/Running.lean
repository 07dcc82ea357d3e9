import Mathlib.Order.Defs.Unbundled
import StoryMachine.Machine.Basic

/-! How a sequence of steps runs, from how each of them runs. A step may fail, and then the state it
leaves counts all the same. -/

namespace StoryMachine

variable {ε σ α β : Type}

theorem bind_of_ok {first : EStateM ε σ α} {next : α → EStateM ε σ β} {before after : σ} {value : α}
    (ran : first before = .ok value after) : (first >>= next) before = next value after := by
  simp only [bind, EStateM.bind, ran]

theorem bind_of_error {first : EStateM ε σ α} {next : α → EStateM ε σ β} {before after : σ}
    {error : ε} (failed : first before = .error error after) :
    (first >>= next) before = .error error after := by
  simp only [bind, EStateM.bind, failed]

theorem exists_of_bind_ok {first : EStateM ε σ α} {next : α → EStateM ε σ β} {before after : σ}
    {result : β} (ran : (first >>= next) before = .ok result after) :
    ∃ value middle, first before = .ok value middle ∧ next value middle = .ok result after := by
  cases started : first before with
  | ok value middle =>
    rw [bind_of_ok started] at ran
    exact ⟨value, middle, rfl, ran⟩
  | error error middle =>
    rw [bind_of_error started] at ran
    cases ran

theorem get_bind (next : σ → EStateM ε σ α) (before : σ) :
    (get >>= next) before = next before before := rfl

theorem tryCatch_eq (action : EStateM ε σ α) (handler : ε → EStateM ε σ α) (before : σ) :
    tryCatch action handler before =
      match action before with
      | .ok value after => .ok value after
      | .error error after => handler error after := by
  change EStateM.tryCatch action handler before = _
  delta EStateM.tryCatch
  cases action before <;> rfl

theorem tryCatch_of_ok {action : EStateM ε σ α} {handler : ε → EStateM ε σ α} {before after : σ}
    {value : α} (ran : action before = .ok value after) :
    tryCatch action handler before = .ok value after := by
  rw [tryCatch_eq, ran]

theorem tryCatch_of_error {action : EStateM ε σ α} {handler : ε → EStateM ε σ α} {before after : σ}
    {error : ε} (failed : action before = .error error after) :
    tryCatch action handler before = handler error after := by
  rw [tryCatch_eq, failed]

def finalState : EStateM.Result ε σ α → σ
  | .ok _ state | .error _ state => state

def failure? : EStateM.Result ε σ α → Option ε
  | .ok _ _ => none
  | .error error _ => some error

theorem exists_of_failure? {result : EStateM.Result ε σ α} {error : ε}
    (failed : failure? result = some error) : ∃ state, result = .error error state := by
  cases result with
  | ok value state => cases failed
  | error error state =>
    cases failed
    exact ⟨state, rfl⟩

theorem eq_ok_of_failure? {result : EStateM.Result ε σ PUnit} (fine : failure? result = none) :
    result = .ok () (finalState result) := by
  cases result with
  | ok value state => rfl
  | error error state => cases fine

/-- Every state that an action leaves is in a relation to the state it found. -/
def Keeps (relation : σ → σ → Prop) (action : EStateM ε σ α) : Prop :=
  ∀ before, relation before (finalState (action before))

theorem Keeps.of_ok {relation : σ → σ → Prop} {action : EStateM ε σ α}
    (kept : Keeps relation action) {before after : σ} {value : α} (ran : action before = .ok value after) :
    relation before after := by
  have related := kept before
  rwa [ran] at related

theorem Keeps.mono {relation weaker : σ → σ → Prop} {action : EStateM ε σ α}
    (kept : Keeps relation action) (implies : ∀ before after, relation before after →
      weaker before after) : Keeps weaker action :=
  fun before => implies _ _ (kept before)

theorem Keeps.ite {relation : σ → σ → Prop} {condition : Prop} [Decidable condition]
    {first second : EStateM ε σ α} (yes : Keeps relation first) (no : Keeps relation second) :
    Keeps relation (if condition then first else second) := by
  split
  · exact yes
  · exact no

theorem keeps_get_bind {relation : σ → σ → Prop} {next : σ → EStateM ε σ α}
    (kept : ∀ before, relation before (finalState (next before before))) :
    Keeps relation (get >>= next) :=
  kept

theorem keeps_modify {relation : σ → σ → Prop} {change : σ → σ}
    (kept : ∀ before, relation before (change before)) :
    Keeps relation (modify change : EStateM ε σ PUnit) :=
  kept

section Preorder

variable {relation : σ → σ → Prop} [IsPreorder σ relation]

theorem keeps_of_eq {action : EStateM ε σ α}
    (same : ∀ before, finalState (action before) = before) :
    Keeps relation action := by
  intro before
  rw [same before]
  exact refl_of relation before

theorem keeps_pure (value : α) : Keeps relation (pure value : EStateM ε σ α) :=
  keeps_of_eq fun _ => rfl

theorem keeps_throw (error : ε) : Keeps relation (throw error : EStateM ε σ α) :=
  keeps_of_eq fun _ => rfl

theorem keeps_get : Keeps relation (get : EStateM ε σ σ) :=
  keeps_of_eq fun _ => rfl

/-- What two steps come to, where the second need only be known after the first went well. -/
theorem relates_bind {first : EStateM ε σ α} {next : α → EStateM ε σ β} {before : σ}
    (here : relation before (finalState (first before)))
    (there : ∀ value middle, first before = .ok value middle →
      relation middle (finalState (next value middle))) :
    relation before (finalState ((first >>= next) before)) := by
  cases ran : first before with
  | ok value middle =>
    rw [bind_of_ok ran]
    rw [ran] at here
    exact trans_of relation here (there value middle ran)
  | error error after =>
    rw [bind_of_error ran]
    rwa [ran] at here

theorem Keeps.bind {first : EStateM ε σ α} {next : α → EStateM ε σ β} (here : Keeps relation first)
    (there : ∀ value, Keeps relation (next value)) : Keeps relation (first >>= next) :=
  fun before => relates_bind (here before) fun value middle _ => there value middle

/-- What follows a conditional step follows either way. -/
theorem Keeps.ite_bind {condition : Prop} [Decidable condition] {first : EStateM ε σ Unit}
    {next : Unit → EStateM ε σ β} (here : Keeps relation first)
    (there : ∀ value, Keeps relation (next value)) :
    Keeps relation (if condition then first >>= next else next ()) :=
  (here.bind there).ite (there ())

theorem Keeps.tryCatch {action : EStateM ε σ α} {handler : ε → EStateM ε σ α}
    (here : Keeps relation action) (there : ∀ error, Keeps relation (handler error)) :
    Keeps relation (tryCatch action handler) := by
  intro before
  have moved := here before
  cases ran : action before with
  | ok value after =>
    rw [tryCatch_of_ok ran]
    rwa [ran] at moved
  | error error middle =>
    rw [tryCatch_of_error ran]
    rw [ran] at moved
    exact trans_of relation moved (there error middle)

theorem Keeps.forM {body : α → EStateM ε σ PUnit} (kept : ∀ item, Keeps relation (body item))
    (items : List α) : Keeps relation (items.forM body) := by
  induction items with
  | nil => exact keeps_pure _
  | cons item rest ih => exact (kept item).bind fun _ => ih

theorem Keeps.mapM {body : α → EStateM ε σ β} (kept : ∀ item, Keeps relation (body item))
    (items : List α) : Keeps relation (items.mapM body) := by
  induction items with
  | nil => exact keeps_pure _
  | cons item rest ih =>
    rw [List.mapM_cons]
    exact (kept item).bind fun _ => ih.bind fun _ => keeps_pure _

theorem Keeps.forIn {body : α → β → EStateM ε σ (ForInStep β)}
    (kept : ∀ item state, Keeps relation (body item state)) (items : List α) (init : β) :
    Keeps relation (forIn items init body) := by
  induction items generalizing init with
  | nil => exact keeps_pure init
  | cons item rest ih =>
    rw [List.forIn_cons]
    refine (kept item init).bind fun step => ?_
    cases step with
    | done state => exact keeps_pure state
    | yield state => exact ih state

end Preorder

namespace Update

theorem query_of_ok {read : Story → Except Error α} {story : Story} {value : α}
    (found : read story = .ok value) : query read story = .ok value story := by
  simp only [query, found]

theorem query_of_error {read : Story → Except Error α} {story : Story} {error : Error}
    (failed : read story = .error error) : query read story = .error error story := by
  simp only [query, failed]

theorem keeps_query {relation : Story → Story → Prop} [IsPreorder Story relation]
    (read : Story → Except Error α) : Keeps relation (query read) := by
  apply keeps_of_eq
  intro before
  rw [query]
  split <;> rfl

end Update

namespace Engine

variable {η : Type} {machine : Machine η}

theorem query_of_ok {read : Story → Except Error α} {value : α}
    (found : read machine.story = .ok value) : query read machine = .ok value machine := by
  simp only [query, found]

theorem query_of_error {read : Story → Except Error α} {error : Error}
    (failed : read machine.story = .error error) : query read machine = .error error machine := by
  simp only [query, failed]

theorem update_of_ok {change : Update α} {value : α} {story : Story}
    (made : change machine.story = .ok value story) :
    update change machine = .ok value { machine with story } := by
  simp only [update, made]

theorem update_of_error {change : Update α} {error : Error} {story : Story}
    (failed : change machine.story = .error error story) :
    update change machine = .error error { machine with story } := by
  simp only [update, failed]

theorem exists_of_query_ok {read : Story → Except Error α} {next : α → Engine η β} {result : β}
    {after : Machine η} (ran : (query read >>= next) machine = .ok result after) :
    ∃ value, read machine.story = .ok value ∧ next value machine = .ok result after := by
  cases found : read machine.story with
  | ok value =>
    rw [bind_of_ok (query_of_ok found)] at ran
    exact ⟨value, rfl, ran⟩
  | error error =>
    rw [bind_of_error (query_of_error found)] at ran
    cases ran

theorem exists_of_update_ok {change : Update α} {value : α} {after : Machine η}
    (ran : update change machine = .ok value after) :
    ∃ story, change machine.story = .ok value story ∧ after = { machine with story } := by
  cases made : change machine.story with
  | ok found story =>
    simp only [update, made] at ran
    cases ran
    exact ⟨story, rfl, rfl⟩
  | error error story =>
    simp only [update, made] at ran
    cases ran

end Engine

end StoryMachine
