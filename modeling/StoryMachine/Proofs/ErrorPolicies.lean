import StoryMachine.Proofs.AgreeingOperations
import StoryMachine.Proofs.ErrorRecovery

/-! The error policy decides what a host hears of errors, and nothing else. Machines that differ
only in their policy run alike with a host that takes no notice of errors, for as long as none of
them aborts. The host hears of every error, of the first of each code, or of none. -/

namespace StoryMachine

variable {η : Type} [Host η]

namespace HostCall

/-- A host after calls, of which the latest stands first. -/
def runAll (host : η) : List HostCall → η
  | [] => host
  | call :: earlier => (call.run (runAll host earlier)).2

theorem runAll_append (host : η) (later earlier : List HostCall) :
    runAll host (later ++ earlier) = runAll (runAll host earlier) later := by
  induction later with
  | nil => rfl
  | cons call later ih => rw [List.cons_append, runAll, ih, runAll]

def plain (calls : List HostCall) : List HostCall :=
  calls.filter (·.error?.isNone)

def errors (calls : List HostCall) : List (ErrorCode × String) :=
  calls.filterMap error?

variable {call : HostCall}

theorem plain_cons_of_none (silent : call.error? = none) (calls : List HostCall) :
    plain (call :: calls) = call :: plain calls :=
  List.filter_cons_of_pos (by rw [silent]; rfl)

theorem plain_cons_of_some {told : ErrorCode × String} (tells : call.error? = some told)
    (calls : List HostCall) : plain (call :: calls) = plain calls :=
  List.filter_cons_of_neg (by rw [tells]; exact Bool.false_ne_true)

theorem errors_cons_of_none (silent : call.error? = none) (calls : List HostCall) :
    errors (call :: calls) = errors calls :=
  List.filterMap_cons_none silent

end HostCall

/-- What a host has been told of errors makes no difference to its answers. -/
def ErrorBlind (host : η) : Prop :=
  ∀ (calls : List HostCall) (call : HostCall),
    (call.run (HostCall.runAll host calls)).1 =
      (call.run (HostCall.runAll host (HostCall.plain calls))).1

theorem ErrorBlind.answers {host : η} (blind : ErrorBlind host) {first second : List HostCall}
    (same : HostCall.plain first = HostCall.plain second) (call : HostCall) :
    (call.run (HostCall.runAll host first)).1 = (call.run (HostCall.runAll host second)).1 := by
  rw [blind first, same, ← blind second]

structure Watched (η : Type) where
  host : η
  calls : List HostCall := []

namespace Watched

def hear (watched : Watched η) (call : HostCall) (reply : α × η) : α × Watched η :=
  (reply.1, ⟨reply.2, call :: watched.calls⟩)

instance : Host (Watched η) where
  notify notice watched :=
    ⟨Presentation.notify notice watched.host, .notify notice :: watched.calls⟩
  cursor watched := watched.hear .cursor (Presentation.cursor watched.host)
  setFont font watched := watched.hear (.setFont font) (Presentation.setFont font watched.host)
  pictureData picture watched :=
    watched.hear (.pictureData picture) (Presentation.pictureData picture watched.host)
  windowProperty window property watched := watched.hear (.windowProperty window property)
    (Presentation.windowProperty window property watched.host)
  readMouse watched := watched.hear .readMouse (Presentation.readMouse watched.host)
  makeMenu menu items watched :=
    watched.hear (.makeMenu menu items) (Presentation.makeMenu menu items watched.host)
  draw watched := watched.hear .draw (RandomSource.draw watched.host)
  seed value watched := ⟨RandomSource.seed value watched.host, .seed value :: watched.calls⟩
  save snapshot watched :=
    watched.hear (.save snapshot) (SaveStore.save snapshot watched.host)
  restore watched := watched.hear .restore (SaveStore.restore watched.host)

theorem run_eq (watched : Watched η) (call : HostCall) :
    call.run watched =
      ((call.run watched.host).1, ⟨(call.run watched.host).2, call :: watched.calls⟩) := by
  cases call <;> rfl

/-- A watched host is what its calls have made of the host that it was at first. -/
def Follows (host : η) (watched : Watched η) : Prop :=
  watched.host = HostCall.runAll host watched.calls

theorem Follows.run {host : η} {watched : Watched η} (follows : watched.Follows host)
    (call : HostCall) : (call.run watched).2.Follows host := by
  rw [run_eq, Follows, HostCall.runAll, ← follows]

end Watched

/-- Of errors, the latest first, those that are the first of their code. -/
def firstOfEach : List (ErrorCode × String) → List (ErrorCode × String)
  | [] => []
  | told :: earlier =>
    if told.1 ∈ earlier.map Prod.fst then firstOfEach earlier else told :: firstOfEach earlier

theorem mem_codes_firstOfEach {code : ErrorCode} {errors : List (ErrorCode × String)} :
    code ∈ (firstOfEach errors).map Prod.fst ↔ code ∈ errors.map Prod.fst := by
  induction errors with
  | nil => rfl
  | cons told earlier ih =>
    rw [firstOfEach, List.map_cons, List.mem_cons]
    split
    case isTrue known =>
      rw [ih]
      refine ⟨.inr, fun among => ?_⟩
      rcases among with rfl | among
      · exact known
      · exact among
    case isFalse => rw [List.map_cons, List.mem_cons, ih]

/-- Which errors a policy lets the host hear of, of those that a machine goes on after. -/
def ErrorPolicy.heard : ErrorPolicy → List (ErrorCode × String) → List (ErrorCode × String)
  | .warnAlways, errors => errors
  | .warnOnce, errors => firstOfEach errors
  | .ignore, _ | .abort, _ => []

theorem ErrorPolicy.heard_nil (policy : ErrorPolicy) : policy.heard [] = [] := by
  cases policy <;> rfl

/-- The first host hears of every error; the second hears as its policy has it, and otherwise has
had the same calls. -/
structure Policed (host : η) (policy : ErrorPolicy) (first second : Outside (Watched η)) :
    Prop where
  always : first.policy = .warnAlways
  under : second.policy = policy
  follows : first.host.Follows host ∧ second.host.Follows host
  plain : HostCall.plain first.host.calls = HostCall.plain second.host.calls
  heard : HostCall.errors second.host.calls = policy.heard (HostCall.errors first.host.calls)
  reported : policy = .warnOnce →
    second.reported = (HostCall.errors second.host.calls).map Prod.fst

namespace Policed

variable {host : η} {policy : ErrorPolicy} {first second : Outside (Watched η)}

theorem going (policed : Policed host policy first second) : first.policy ≠ .abort := by
  intro aborts
  cases policed.always.symm.trans aborts

theorem answers (blind : ErrorBlind host) (policed : Policed host policy first second)
    (call : HostCall) : (call.run first.host.host).1 = (call.run second.host.host).1 := by
  obtain ⟨follows₁, follows₂⟩ := policed.follows
  rw [follows₁, follows₂]
  exact blind.answers policed.plain call

theorem call (policed : Policed host policy first second) {call : HostCall}
    (silent : call.error? = none) : Policed host policy (first.call call) (second.call call) where
  always := policed.always
  under := policed.under
  follows := ⟨policed.follows.1.run call, policed.follows.2.run call⟩
  plain := by
    simp only [Outside.call, Watched.run_eq, HostCall.plain_cons_of_none silent, policed.plain]
  heard := by
    simp only [Outside.call, Watched.run_eq, HostCall.errors_cons_of_none silent, policed.heard]
  reported once := by
    simp only [Outside.call, Watched.run_eq, HostCall.errors_cons_of_none silent]
    exact policed.reported once

theorem tell (policed : Policed host policy first second) (going : policy ≠ .abort)
    (error : Error) : Policed host policy (first.tell error) (second.tell error) := by
  have loud : first.tell error = first.call (.notify (.error error.code error.message)) := by
    rw [Outside.tell, policed.always]
  rw [loud, Outside.tell, policed.under]
  obtain ⟨follows₁, follows₂⟩ := policed.follows
  cases policy with
  | abort => exact absurd rfl going
  | warnAlways =>
    refine ⟨policed.always, policed.under, ⟨follows₁.run _, follows₂.run _⟩, policed.plain, ?_, ?_⟩
    · exact congrArg ((error.code, error.message) :: ·) policed.heard
    · rintro ⟨⟩
  | ignore =>
    refine ⟨policed.always, policed.under, ⟨follows₁.run _, follows₂⟩, policed.plain,
      policed.heard, ?_⟩
    rintro ⟨⟩
  | warnOnce =>
    have reported := policed.reported rfl
    -- The codes that were reported are those of all the errors so far, heard or not.
    have known : error.code ∈ second.reported ↔
        error.code ∈ (HostCall.errors first.host.calls).map Prod.fst := by
      rw [reported, policed.heard]
      exact mem_codes_firstOfEach
    by_cases again : error.code ∈ second.reported
    · simp only [again, if_true]
      refine ⟨policed.always, policed.under, ⟨follows₁.run _, follows₂⟩, policed.plain, ?_,
        fun _ => reported⟩
      exact policed.heard.trans (if_pos (known.mp again)).symm
    · simp only [again, if_false]
      refine ⟨policed.always, policed.under, ⟨follows₁.run _, follows₂.run _⟩, policed.plain, ?_,
        fun _ => congrArg (error.code :: ·) reported⟩
      have heard := congrArg ((error.code, error.message) :: ·) policed.heard
      exact heard.trans (if_neg fun early => again (known.mpr early)).symm

theorem lasting (blind : ErrorBlind host) (going : policy ≠ .abort) :
    Outside.Lasting (Policed host policy) where
  call policed call silent := by
    refine ⟨?_, policed.call silent⟩
    rw [Watched.run_eq, Watched.run_eq]
    exact policed.answers blind call
  tell policed _ := ⟨policed.under ▸ going, policed.tell going⟩

end Policed

/-- The first machine is to abort, and neither has told of an error. -/
structure Unbroken (first second : Outside (Watched η)) : Prop where
  aborts : first.policy = .abort
  host : first.host = second.host
  unheard : HostCall.errors first.host.calls = []

instance : Outside.Lasting (Unbroken : Outside (Watched η) → Outside (Watched η) → Prop) where
  call {first second} unbroken call silent := by
    refine ⟨by rw [unbroken.host], unbroken.aborts, ?_, ?_⟩
    · rw [Outside.call, unbroken.host, Outside.call]
    · rw [Outside.call, Watched.run_eq, HostCall.errors_cons_of_none silent]
      exact unbroken.unheard
  tell unbroken going := absurd unbroken.aborts going

structure Watches (first : Outside η) (second : Outside (Watched η)) : Prop where
  host : first.host = second.host.host
  policy : first.policy = second.policy
  reported : first.reported = second.reported

theorem Watches.call {first : Outside η} {second : Outside (Watched η)}
    (watches : Watches first second) (call : HostCall) :
    Watches (first.call call) (second.call call) where
  host := by rw [Outside.call, Outside.call, Watched.run_eq, watches.host]
  policy := watches.policy
  reported := watches.reported

theorem Watches.tell {first : Outside η} {second : Outside (Watched η)}
    (watches : Watches first second) (error : Error) :
    Watches (first.tell error) (second.tell error) := by
  have told := watches.call (.notify (.error error.code error.message))
  rw [Outside.tell, Outside.tell, watches.policy, watches.reported]
  cases second.policy with
  | warnAlways => exact told
  | ignore | abort => exact watches
  | warnOnce =>
    by_cases known : error.code ∈ second.reported
    · simp only [known, if_true]
      exact watches
    · simp only [known, if_false]
      exact ⟨told.host, told.policy, rfl⟩

instance : Outside.Lasting (Watches : Outside η → Outside (Watched η) → Prop) where
  call watches call _ := by
    refine ⟨?_, watches.call call⟩
    rw [Watched.run_eq, watches.host]
  tell watches going := ⟨watches.policy ▸ going, watches.tell⟩

namespace Machine

def Succeeds (machine : Machine η) : List (Option InputResponse) → Prop
  | [] => True
  | input :: rest => failure? (Engine.step input machine) = none ∧
      (finalState (Engine.step input machine)).Succeeds rest

section Runs

variable {η₁ η₂ : Type} [Host η₁] [Host η₂] {relation : Outside η₁ → Outside η₂ → Prop}
  [Outside.Lasting relation] {machine : Machine η₁} {other : Machine η₂}

omit [Host η₁] [Host η₂] [Outside.Lasting relation] in
theorem Agree.of_load {image : Array UInt8} {config : Config} {policy₁ policy₂ : ErrorPolicy}
    {host₁ : η₁} {host₂ : η₂}
    (loaded₁ : Machine.load image { config with errorPolicy := policy₁ } host₁ = .ok machine)
    (loaded₂ : Machine.load image { config with errorPolicy := policy₂ } host₂ = .ok other)
    (outside : relation ⟨host₁, policy₁, []⟩ ⟨host₂, policy₂, []⟩) :
    machine.Agree relation other := by
  obtain ⟨story, read, rfl⟩ := eq_of_load loaded₁
  obtain ⟨story', read', rfl⟩ := eq_of_load loaded₂
  cases read.symm.trans read'
  exact ⟨⟨rfl, rfl, rfl, rfl, rfl, rfl, rfl, rfl, rfl, rfl, rfl, rfl⟩, outside⟩

theorem Agree.step (agree : machine.Agree relation other) (input : Option InputResponse)
    (going : machine.config.errorPolicy ≠ .abort ∨ failure? (Engine.step input machine) = none) :
    failure? (Engine.step input machine) = failure? (Engine.step input other) ∧
      (finalState (Engine.step input machine)).Agree relation
        (finalState (Engine.step input other)) := by
  have config := config_of_reaches (Engine.reaches_step input machine)
  have agreed := Engine.agrees_step input agree
  generalize Engine.step input machine = result at config agreed going ⊢
  generalize Engine.step input other = result' at agreed ⊢
  cases agreed with
  | ok value later => exact ⟨rfl, later⟩
  | error error later => exact ⟨rfl, later⟩
  | aborted error aborts =>
    rcases going with going | succeeded
    · rw [finalState] at config
      rw [config] at aborts
      exact absurd aborts going
    · cases succeeded

theorem Agree.afterSteps (agree : machine.Agree relation other)
    (inputs : List (Option InputResponse))
    (going : machine.config.errorPolicy ≠ .abort ∨ machine.Succeeds inputs) :
    (machine.afterSteps inputs).Agree relation (other.afterSteps inputs) ∧
      (machine.Succeeds inputs → other.Succeeds inputs) := by
  induction inputs generalizing machine other with
  | nil => exact ⟨agree, id⟩
  | cons input rest ih =>
    obtain ⟨same, later⟩ := agree.step input (going.imp_right And.left)
    have config := config_of_reaches (Engine.reaches_step input machine)
    obtain ⟨last, succeeds⟩ := ih later (by
      rw [config]
      exact going.imp_right And.right)
    exact ⟨last, fun ⟨first, others⟩ => ⟨same ▸ first, succeeds others⟩⟩

end Runs

theorem SameInside.symm {η₁ η₂ : Type} {first : Machine η₁} {second : Machine η₂}
    (same : first.SameInside second) : second.SameInside first where
  story := same.story.symm
  config := by rw [← same.config]
  stack := same.stack.symm
  status := same.status.symm
  randomMode := same.randomMode.symm
  undo := same.undo.symm
  initial := same.initial.symm
  screen := same.screen.symm
  captures := same.captures.symm
  commandScript := same.commandScript.symm
  pending := same.pending.symm
  instructionCount := same.instructionCount.symm

theorem SameInside.trans {η₁ η₂ η₃ : Type} {first : Machine η₁} {second : Machine η₂}
    {third : Machine η₃} (same : first.SameInside second) (later : second.SameInside third) :
    first.SameInside third where
  story := same.story.trans later.story
  config := by rw [← later.config, ← same.config]
  stack := same.stack.trans later.stack
  status := same.status.trans later.status
  randomMode := same.randomMode.trans later.randomMode
  undo := same.undo.trans later.undo
  initial := same.initial.trans later.initial
  screen := same.screen.trans later.screen
  captures := same.captures.trans later.captures
  commandScript := same.commandScript.trans later.commandScript
  pending := same.pending.trans later.pending
  instructionCount := same.instructionCount.trans later.instructionCount

/-- Two machines are alike but for errors: inside, in the calls that their hosts have had, and in
the answers that the hosts are going to give. -/
structure Alike (first second : Machine (Watched η)) : Prop where
  inside : first.SameInside second
  calls : HostCall.plain first.host.calls = HostCall.plain second.host.calls
  answers : ∀ (later : List HostCall) (call : HostCall),
    (call.run (HostCall.runAll first.host.host later)).1 =
      (call.run (HostCall.runAll second.host.host later)).1

namespace Alike

variable {first second third : Machine (Watched η)}

theorem symm (alike : first.Alike second) : second.Alike first :=
  ⟨alike.inside.symm, alike.calls.symm, fun later call => (alike.answers later call).symm⟩

theorem trans (alike : first.Alike second) (next : second.Alike third) : first.Alike third :=
  ⟨alike.inside.trans next.inside, alike.calls.trans next.calls, fun later call =>
    (alike.answers later call).trans (next.answers later call)⟩

theorem of_policed {host : η} {policy : ErrorPolicy} (blind : ErrorBlind host)
    (agree : first.Agree (Policed host policy) second) : first.Alike second := by
  refine ⟨agree.toSameInside, agree.outside.plain, fun later call => ?_⟩
  obtain ⟨follows₁, follows₂⟩ := agree.outside.follows
  have same : HostCall.plain (later ++ first.host.calls) =
      HostCall.plain (later ++ second.host.calls) := by
    rw [HostCall.plain, HostCall.plain, List.filter_append, List.filter_append]
    exact congrArg _ agree.outside.plain
  rw [show first.host.host = _ from follows₁, show second.host.host = _ from follows₂,
    ← HostCall.runAll_append, ← HostCall.runAll_append]
  exact blind.answers same call

theorem of_unbroken (agree : first.Agree Unbroken second) : first.Alike second := by
  have host : first.host = second.host := agree.outside.host
  exact ⟨agree.toSameInside, by rw [host], fun later call => by rw [host]⟩

end Alike

section Policies

variable {image : Array UInt8} {config : Config} {host : η}
  {fresh : ErrorPolicy → Machine (Watched η)}

theorem agree_policed_afterSteps (blind : ErrorBlind host)
    (loaded : ∀ policy, Machine.load image { config with errorPolicy := policy } ⟨host, []⟩ =
      .ok (fresh policy)) {policy : ErrorPolicy} (going : policy ≠ .abort)
    (inputs : List (Option InputResponse)) :
    ((fresh .warnAlways).afterSteps inputs).Agree (Policed host policy)
        ((fresh policy).afterSteps inputs) ∧
      ((fresh .warnAlways).Succeeds inputs → (fresh policy).Succeeds inputs) := by
  have lasting := Policed.lasting blind going
  have agree : (fresh .warnAlways).Agree (Policed host policy) (fresh policy) := by
    apply Agree.of_load (loaded .warnAlways) (loaded policy)
    exact ⟨rfl, rfl, ⟨rfl, rfl⟩, rfl, policy.heard_nil.symm, fun _ => rfl⟩
  exact agree.afterSteps inputs (.inl agree.outside.going)

theorem agree_unbroken_afterSteps
    (loaded : ∀ policy, Machine.load image { config with errorPolicy := policy } ⟨host, []⟩ =
      .ok (fresh policy)) {inputs : List (Option InputResponse)}
    (succeeds : (fresh .abort).Succeeds inputs) :
    ((fresh .abort).afterSteps inputs).Agree Unbroken ((fresh .warnAlways).afterSteps inputs) ∧
      (fresh .warnAlways).Succeeds inputs := by
  have agree : (fresh .abort).Agree Unbroken (fresh .warnAlways) :=
    Agree.of_load (loaded .abort) (loaded .warnAlways) ⟨rfl, rfl, rfl⟩
  obtain ⟨later, others⟩ := agree.afterSteps inputs (.inr succeeds)
  exact ⟨later, others succeeds⟩

theorem agree_watches_afterSteps {policy : ErrorPolicy} {bare : Machine η}
    {watched : Machine (Watched η)} {inputs : List (Option InputResponse)}
    (unwatched : Machine.load image { config with errorPolicy := policy } host = .ok bare)
    (loaded : Machine.load image { config with errorPolicy := policy } ⟨host, []⟩ = .ok watched)
    (going : policy ≠ .abort ∨ bare.Succeeds inputs) :
    (bare.afterSteps inputs).Agree Watches (watched.afterSteps inputs) ∧
      (bare.Succeeds inputs → watched.Succeeds inputs) := by
  have agree : bare.Agree Watches watched := Agree.of_load unwatched loaded ⟨rfl, rfl, rfl⟩
  have under : bare.config.errorPolicy = policy := by
    obtain ⟨story, -, rfl⟩ := eq_of_load unwatched
    rfl
  rw [← under] at going
  exact agree.afterSteps inputs going

/-- The error policy makes no difference to a run but for what the host hears of errors. -/
theorem policy_changes_only_reports (config : Config) (blind : ErrorBlind host)
    (loaded : ∀ policy, Machine.load image { config with errorPolicy := policy } ⟨host, []⟩ =
      .ok (fresh policy)) (inputs : List (Option InputResponse)) :
    let reached policy := (fresh policy).afterSteps inputs
    let told policy := HostCall.errors (reached policy).host.calls
    (∀ first second, first ≠ .abort → second ≠ .abort →
      (reached first).Alike (reached second) ∧ ∀ input,
        failure? (Engine.step input (reached first)) =
          failure? (Engine.step input (reached second))) ∧
    told .ignore = [] ∧
    told .warnOnce = firstOfEach (told .warnAlways) ∧
    ((fresh .abort).Succeeds inputs → ∀ policy,
      (fresh policy).Succeeds inputs ∧ (reached .abort).Alike (reached policy) ∧
        told policy = []) ∧
    -- Watching the host makes no difference either.
    ∀ policy bare, Machine.load image { config with errorPolicy := policy } host = .ok bare →
      policy ≠ .abort ∨ bare.Succeeds inputs →
      (bare.Succeeds inputs → (fresh policy).Succeeds inputs) ∧
        (bare.afterSteps inputs).SameInside (reached policy) ∧
        (bare.afterSteps inputs).host = (reached policy).host.host := by
  intro reached told
  have policed {policy : ErrorPolicy} (going : policy ≠ .abort) :=
    agree_policed_afterSteps blind loaded going inputs
  have alike {policy : ErrorPolicy} (going : policy ≠ .abort) :
      (reached .warnAlways).Alike (reached policy) := .of_policed blind (policed going).1
  have results {policy : ErrorPolicy} (going : policy ≠ .abort) (input : Option InputResponse) :
      failure? (Engine.step input (reached .warnAlways)) =
        failure? (Engine.step input (reached policy)) := by
    have lasting := Policed.lasting blind going
    have agree := (policed going).1
    exact (agree.step input (.inl agree.outside.going)).1
  have heard {policy : ErrorPolicy} (going : policy ≠ .abort) :
      told policy = policy.heard (told .warnAlways) := (policed going).1.outside.heard
  refine ⟨fun first second going₁ going₂ => ?_, heard (by decide), heard (by decide),
    fun succeeds => ?_, ?_⟩
  · refine ⟨(alike going₁).symm.trans (alike going₂), fun input => ?_⟩
    exact (results going₁ input).symm.trans (results going₂ input)
  · obtain ⟨agree, others⟩ := agree_unbroken_afterSteps loaded succeeds
    have silent : told .abort = [] := agree.outside.unheard
    have unheard : told .warnAlways = [] := by
      rw [← silent]
      exact congrArg (fun watched => HostCall.errors watched.calls) agree.outside.host.symm
    intro policy
    by_cases aborts : policy = .abort
    · subst aborts
      have self := Alike.of_unbroken agree
      exact ⟨succeeds, self.trans self.symm, silent⟩
    · refine ⟨(policed aborts).2 others, (Alike.of_unbroken agree).trans (alike aborts), ?_⟩
      rw [heard aborts, unheard, policy.heard_nil]
  · intro policy bare unwatched going
    obtain ⟨later, succeeds⟩ := agree_watches_afterSteps unwatched (loaded policy) going
    exact ⟨succeeds, later.toSameInside, later.outside.host⟩

end Policies

end Machine

theorem errorBlind_memoryStore (store : MemoryStore) : ErrorBlind store := by
  have same (calls : List HostCall) :
      HostCall.runAll store calls = HostCall.runAll store (HostCall.plain calls) := by
    induction calls with
    | nil => rfl
    | cons call earlier ih =>
      cases told : call.error? with
      | none => rw [HostCall.plain_cons_of_none told, HostCall.runAll, ih, HostCall.runAll]
      | some error =>
        have dropped : (call.run (HostCall.runAll store earlier)).2 =
            HostCall.runAll store earlier := by
          unfold HostCall.error? at told
          split at told
          · rfl
          · cases told
        rw [HostCall.plain_cons_of_some told, HostCall.runAll, dropped, ih]
  intro calls call
  rw [same]

/-- A story of version 5 that divides by 0, shifts by 99 places, and divides by 0 again. -/
def erringImage : Array UInt8 :=
  imageOfBytes 0x60 [(0x00, 5), (0x07, 0x40), (0x0f, 0x58), (0x40, 0x17), (0x41, 1), (0x44, 0xbe),
    (0x45, 2), (0x46, 0x5f), (0x47, 1), (0x48, 99), (0x4a, 0x17), (0x4b, 1)]

theorem Machine.policy_changes_only_reports_erringImage :
    ∃ fresh : ErrorPolicy → Machine (Watched MemoryStore),
      (∀ policy, Machine.load erringImage { errorPolicy := policy } ⟨{}, []⟩ =
        .ok (fresh policy)) ∧
      let reached policy := (fresh policy).afterSteps [none, none, none, none]
      let told policy := HostCall.errors (reached policy).host.calls
      let zero := (Error.divisionByZero.code, Error.divisionByZero.message)
      let far := ((Error.shiftOutOfRange 99).code, (Error.shiftOutOfRange 99).message)
      told .warnAlways = [zero, far, zero] ∧ told .warnOnce = [far, zero] ∧ told .ignore = [] ∧
        (reached .ignore).Alike (reached .warnOnce) := by
  have facts : (Machine.load erringImage {} (⟨{}, []⟩ : Watched MemoryStore)).toOption.map
      (fun fresh => HostCall.errors (fresh.afterSteps [none, none, none, none]).host.calls) =
      some [(Error.divisionByZero.code, Error.divisionByZero.message),
        ((Error.shiftOutOfRange 99).code, (Error.shiftOutOfRange 99).message),
        (Error.divisionByZero.code, Error.divisionByZero.message)] := by
    decide +kernel
  cases read : Story.load erringImage with
  | error error =>
    rw [Machine.load, read] at facts
    cases facts
  | ok story =>
    let fresh (policy : ErrorPolicy) : Machine (Watched MemoryStore) :=
      { story, config := { errorPolicy := policy }, host := ⟨{}, []⟩ }
    have loaded (policy : ErrorPolicy) :
        Machine.load erringImage { errorPolicy := policy } ⟨{}, []⟩ = .ok (fresh policy) := by
      rw [Machine.load, read]
      rfl
    rw [loaded .warnAlways, Except.toOption, Option.map_some, Option.some.injEq] at facts
    obtain ⟨alike, ignored, once, -⟩ :=
      policy_changes_only_reports {} (errorBlind_memoryStore {}) loaded [none, none, none, none]
    have firsts := once.trans (congrArg firstOfEach facts)
    obtain ⟨same, -⟩ := alike .ignore .warnOnce (by decide) (by decide)
    exact ⟨fresh, loaded, facts, firsts, ignored, same⟩

end StoryMachine
