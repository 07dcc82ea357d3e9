import StoryMachine.Proofs.ObjectForest

/-! Taking objects out of the object tree and putting them in. Both walks through the tree, along
siblings and up through parents, meet no object twice, so neither reaches its limit. -/

namespace StoryMachine

/-- The objects up to `count` have entries whose links form a forest, in which each object has these
children in this order. -/
structure Story.Forest (story : Story) (count : Nat) (children : Nat → List Nat) : Prop where
  objects : story.HasObjects count
  linked : story.links.Forest count children

namespace Story

variable {story : Story} {count : Nat} {children : Nat → List Nat}

/-- The walk along siblings finds the one before an object, if it may take enough steps. -/
theorem previousSibling_eq (has : story.HasObjects count) {first object parent previous : Nat}
    {front back : List Nat}
    (chain : Chain (story.links .sibling) first (front ++ previous :: object :: back))
    (isObject : ∀ place ∈ front ++ previous :: object :: back, IsObject count place)
    (distinct : (front ++ previous :: object :: back).Nodup) {steps : Nat}
    (enough : front.length < steps) :
    story.previousSibling object parent steps first = .ok previous := by
  obtain ⟨steps, rfl⟩ := Nat.exists_eq_add_one_of_ne_zero (Nat.ne_of_gt (Nat.zero_lt_of_lt enough))
  induction front generalizing first steps with
  | nil =>
    obtain ⟨rfl, nonzero, next, -⟩ := chain
    have read : story.sibling first = .ok object := by
      rw [sibling, link_ok has (isObject first (by simp)), next]
    simp [previousSibling, nonzero, read, bind, Except.bind, pure, Except.pure]
  | cons head front ih =>
    obtain ⟨rfl, nonzero, later⟩ := chain
    rw [List.cons_append, List.nodup_cons] at distinct
    have read := link_ok has (isObject first (by simp)) .sibling
    have different : story.links .sibling first ≠ object := by
      cases front with
      | nil =>
        rw [later.1]
        rintro rfl
        simp at distinct
      | cons second front =>
        rw [later.1]
        rintro rfl
        simp at distinct
    simp only [List.length_cons] at enough
    obtain ⟨steps, rfl⟩ := Nat.exists_eq_add_one_of_ne_zero (by omega : steps ≠ 0)
    rw [previousSibling, sibling, read]
    simp only [nonzero, different, ite_false, bind, Except.bind]
    exact ih later (fun place member => isObject place (by simp [member])) distinct.2 steps
      (by omega)

private theorem length_le_of_isObject {objects : List Nat} (distinct : objects.Nodup)
    (isObject : ∀ object ∈ objects, IsObject count object) : objects.length ≤ count := by
  have inside : objects ⊆ List.range' 1 count := by
    intro object member
    obtain ⟨low, high⟩ := isObject object member
    exact List.mem_range'_1.mpr ⟨low, by omega⟩
  simpa using distinct.length_le_of_subset inside

private theorem isAncestor_zero (object steps : Nat) :
    story.isAncestor object steps 0 = .ok false := by
  cases steps <;> rfl

/-- The walk up tells whether an object is met. It passes no object twice, so it ends at one without
a parent before its steps run out: those below `candidate` are behind it. -/
theorem isAncestor_eq (forest : story.Forest count children) (object : Nat) {steps candidate : Nat}
    {below : List Nat} (isCandidate : IsObject count candidate) (distinct : below.Nodup)
    (passed : ∀ place ∈ below, IsObject count place ∧ Ancestor story.links candidate place)
    (enough : count < steps + below.length) :
    ∃ answer, story.isAncestor object steps candidate = .ok answer ∧
      (answer = true ↔ object = candidate ∨ Ancestor story.links object candidate) := by
  induction steps generalizing candidate below with
  | zero =>
    have few := length_le_of_isObject distinct (fun place member => (passed place member).1)
    omega
  | succ steps ih =>
    have nonzero : candidate ≠ 0 := Nat.ne_of_gt isCandidate.1
    have read := link_ok forest.objects isCandidate .parent
    by_cases met : candidate = object
    · refine ⟨true, ?_, by simp [met]⟩
      simp [isAncestor, met, met ▸ nonzero, pure, Except.pure]
    have step : story.isAncestor object (steps + 1) candidate =
        story.isAncestor object steps (story.links .parent candidate) := by
      rw [isAncestor, parent, read]
      simp [nonzero, met, bind, Except.bind]
    rw [step]
    by_cases top : story.links .parent candidate = 0
    · refine ⟨false, by rw [top, isAncestor_zero], ?_⟩
      rw [Ancestor.iff_parent, top]
      simp [Ne.symm met]
    · have up : Ancestor story.links (story.links .parent candidate) candidate := .parent rfl top
      have fresh : candidate ∉ below := fun member =>
        forest.linked.acyclic candidate isCandidate (passed candidate member).2
      have distinct' : (candidate :: below).Nodup := List.nodup_cons.mpr ⟨fresh, distinct⟩
      have passed' : ∀ place ∈ candidate :: below, IsObject count place ∧
          Ancestor story.links (story.links .parent candidate) place := by
        intro place member
        rcases List.mem_cons.mp member with rfl | member
        · exact ⟨isCandidate, up⟩
        · exact ⟨(passed place member).1, up.trans (passed place member).2⟩
      obtain ⟨answer, walked, meaning⟩ := ih (forest.linked.isObject_parent isCandidate top)
        distinct' passed' (by simp only [List.length_cons]; omega)
      refine ⟨answer, walked, meaning.trans ?_⟩
      rw [@Ancestor.iff_parent _ object candidate]
      constructor
      · intro higher
        exact .inr ⟨top, higher⟩
      · rintro (same | ⟨-, higher⟩)
        · exact absurd same.symm met
        · exact higher

end Story

namespace Update
open Story

variable {story : Story} {count : Nat} {children : Nat → List Nat}

/-- What taking an object out leaves: its list without it, and no parent that was not there. -/
private structure Removed (story : Story) (count : Nat) (children : Nat → List Nat) (object : Nat)
    (links : Links) : Prop where
  forest : links.Forest count (fun place => (children place).erase object)
  orphan : links .parent object = 0
  last : links .sibling object = 0
  fewer : ∀ place, links .parent place = story.links .parent place ∨ links .parent place = 0

private theorem removed_of_orphan {object : Nat} {relinked : Links}
    (forest : (relinked.orphan object).Forest count (fun place => (children place).erase object))
    (parents : ∀ place, relinked .parent place = story.links .parent place) :
    Removed story count children object (relinked.orphan object) where
  forest := forest
  orphan := Links.orphan_parent _ _
  last := Links.orphan_sibling _ _
  fewer place := by
    by_cases same : place = object
    · subst same
      exact .inr (Links.orphan_parent _ _)
    · exact .inl ((Links.orphan_parent_of_ne _ same).trans (parents place))

private theorem setOrphan_ok {before story : Story} {links : Links} (has : before.HasObjects count)
    (relinked : Relinked count before story links) {object : Nat}
    (isObject : IsObject count object) :
    ∃ after, (do setParent object 0; setSibling object 0 : Update Unit) story = .ok () after ∧
      Relinked count before after (links.orphan object) := by
  obtain ⟨middle, ran, between⟩ := setLink_ok has relinked isObject .parent (Nat.zero_le _)
  obtain ⟨after, finished, changed⟩ := setLink_ok has between isObject .sibling (Nat.zero_le _)
  exact ⟨after, (bind_of_ok ran).trans finished, changed⟩

theorem removeObject_ok (forest : story.Forest count children) {object : Nat}
    (isObject : IsObject count object) :
    ∃ after links, removeObject object story = .ok () after ∧ Relinked count story after links ∧
      Removed story count children object links := by
  obtain ⟨has, linked⟩ := forest
  have start := Relinked.refl count story
  have readParent : story.parent object = .ok _ := link_ok has isObject .parent
  rw [removeObject, bind_of_ok (query_of_ok readParent)]
  by_cases top : story.links .parent object = 0
  · simp only [top, ne_eq, not_true_eq_false, ite_false]
    refine ⟨story, story.links, rfl, start, ?_, top, linked.alone object isObject top,
      fun _ => .inl rfl⟩
    apply linked.children_congr
    intro place isPlace
    exact linked.erase_of_ne isObject isPlace (by rw [top]; exact Nat.ne_of_lt isPlace.1)
  · have isParent := linked.isObject_parent isObject top
    have readNext : story.sibling object = .ok _ := link_ok has isObject .sibling
    have readFirst : story.child _ = .ok _ := link_ok has isParent .child
    simp only [ne_eq, top, not_false_eq_true, ite_true]
    rw [bind_of_ok (query_of_ok readNext), bind_of_ok (query_of_ok readFirst)]
    by_cases first : story.links .child (story.links .parent object) = object
    · simp only [first, ite_true]
      obtain ⟨middle, ran, between⟩ := setLink_ok has start isParent .child
        (linked.bounded .sibling object isObject)
      obtain ⟨after, finished, changed⟩ := setOrphan_ok has between isObject
      exact ⟨after, _, (bind_of_ok ran).trans finished, changed,
        removed_of_orphan (linked.remove_first isObject isParent rfl first) (fun _ => rfl)⟩
    · simp only [first, ite_false]
      obtain ⟨front, previous, back, listed⟩ := linked.exists_previous isObject top first
      have chain := linked.chained _ isParent
      have distinct := linked.distinct _ isParent
      have isChild := linked.isObject_child isParent
      rw [listed] at chain distinct isChild
      have walked : story.previousSibling object (story.links .parent object) story.walkLimit
          (story.links .child (story.links .parent object)) = .ok previous := by
        apply previousSibling_eq has chain isChild distinct
        have few := length_le_of_isObject distinct isChild
        have numbered := has.numbered
        simp only [List.length_append, List.length_cons, walkLimit] at few ⊢
        omega
      obtain ⟨middle, ran, between⟩ := setLink_ok has start (isChild previous (by simp)) .sibling
        (linked.bounded .sibling object isObject)
      obtain ⟨after, finished, changed⟩ := setOrphan_ok has between isObject
      refine ⟨after, _, ?_, changed,
        removed_of_orphan (linked.remove_later isObject isParent rfl listed) (fun _ => rfl)⟩
      have got : (get : Update Story) story = .ok story story := rfl
      rw [bind_of_ok got, bind_of_ok (query_of_ok walked)]
      exact (bind_of_ok ran).trans finished

private theorem insertObject_eq (forest : story.Forest count children) {object destination : Nat}
    (isObject : IsObject count object) (isDestination : IsObject count destination) :
    ∃ cycle : Bool,
      (cycle = true ↔ object = destination ∨ Ancestor story.links object destination) ∧
      insertObject object destination story =
        if cycle then .error (.insertionCycle object destination) story
        else (do
          removeObject object
          let first ← query (·.child destination)
          setSibling object first
          setChild destination object
          setParent object destination : Update Unit) story := by
  have enough : count < story.walkLimit + ([] : List Nat).length :=
    Nat.lt_succ_of_le forest.objects.numbered
  obtain ⟨cycle, walked, meaning⟩ := isAncestor_eq forest object isDestination List.nodup_nil
    (by simp) enough
  refine ⟨cycle, meaning, ?_⟩
  have got : (get : Update Story) story = .ok story story := rfl
  rw [insertObject, bind_of_ok (query_of_ok (objectAddress_eq forest.objects isObject)),
    bind_of_ok (query_of_ok (objectAddress_eq forest.objects isDestination)), bind_of_ok got,
    bind_of_ok (query_of_ok walked)]
  cases cycle <;> rfl

/-- An object goes in front of the children of its destination, out of wherever it was. -/
theorem insertObject_ok (forest : story.Forest count children) {object destination : Nat}
    (isObject : IsObject count object) (isDestination : IsObject count destination)
    (apart : ¬ (object = destination ∨ Ancestor story.links object destination)) :
    ∃ after links, insertObject object destination story = .ok () after ∧
      Relinked count story after links ∧ links .parent object = destination ∧
      links.Forest count (fun place =>
        if place = destination then object :: (children place).erase object
        else (children place).erase object) := by
  obtain ⟨cycle, meaning, guarded⟩ := insertObject_eq forest isObject isDestination
  obtain rfl : cycle = false := by
    cases cycle with
    | false => rfl
    | true => exact absurd (meaning.mp rfl) apart
  have has := forest.objects
  obtain ⟨out, links, removed, relinked, outside⟩ := removeObject_ok forest isObject
  have readFirst : out.child destination = .ok _ := relinked.link_ok has isDestination .child
  obtain ⟨first, ran, before⟩ := setLink_ok has relinked isObject .sibling
    (outside.forest.bounded .child destination isDestination)
  obtain ⟨second, ran', between⟩ := setLink_ok has before isDestination .child isObject.2
  obtain ⟨after, finished, changed⟩ := setLink_ok has between isObject .parent isDestination.2
  refine ⟨after, _, ?_, changed, Links.set_same _ _ _ _, ?_⟩
  · rw [guarded, if_neg (by decide), bind_of_ok removed, bind_of_ok (query_of_ok readFirst)]
    exact (bind_of_ok ran).trans ((bind_of_ok ran').trans finished)
  · apply outside.forest.insert isObject isDestination outside.orphan
    · intro same
      exact apart (.inl same)
    · intro ancestry
      exact apart (.inr (ancestry.mono outside.fewer))

theorem insertObject_cycle (forest : story.Forest count children) {object destination : Nat}
    (isObject : IsObject count object) (isDestination : IsObject count destination)
    (cycle : object = destination ∨ Ancestor story.links object destination) :
    insertObject object destination story = .error (.insertionCycle object destination) story := by
  obtain ⟨answer, meaning, guarded⟩ := insertObject_eq forest isObject isDestination
  rw [guarded, if_pos (meaning.mpr cycle)]

/-- Objects move within a forest. An object that is taken out is missing from its parent's children,
whose order stays, and from nothing else. Putting an object in is refused, and nothing changes,
exactly if it is its destination or above it; otherwise it comes first among the children of its
destination and is missing where it was. All other children stay, and so does every byte that is
not part of a link. -/
theorem moveObject_forest (forest : story.Forest count children) {object destination : Nat}
    (isObject : IsObject count object) (isDestination : IsObject count destination) :
    (∃ after kept, removeObject object story = .ok () after ∧ after.Forest count kept ∧
      (∀ parent, IsObject count parent → story.parent object = .ok parent →
        kept parent = (children parent).erase object) ∧
      (∀ parent, IsObject count parent → story.parent object ≠ .ok parent →
        kept parent = children parent) ∧
      after.parent object = .ok 0 ∧ after.sibling object = .ok 0 ∧
      SameButLinks count story after) ∧
    ((∃ error, insertObject object destination story = .error error story ∧
        error.code = .invalidObjectTree) ↔
      object = destination ∨ Ancestor story.links object destination) ∧
    (¬ (object = destination ∨ Ancestor story.links object destination) →
      ∃ after kept, insertObject object destination story = .ok () after ∧
        after.Forest count kept ∧
        kept destination = object :: (children destination).erase object ∧
        (∀ parent, IsObject count parent → parent ≠ destination →
          story.parent object = .ok parent → kept parent = (children parent).erase object) ∧
        (∀ parent, IsObject count parent → parent ≠ destination →
          story.parent object ≠ .ok parent → kept parent = children parent) ∧
        after.parent object = .ok destination ∧ SameButLinks count story after) := by
  have has := forest.objects
  have readParent : story.parent object = .ok _ := link_ok has isObject .parent
  have elsewhere : ∀ parent, IsObject count parent → story.parent object ≠ .ok parent →
      (children parent).erase object = children parent := by
    intro parent isParent different
    apply forest.linked.erase_of_ne isObject isParent
    rintro rfl
    exact different readParent
  refine ⟨?_, ⟨?_, ?_⟩, ?_⟩
  · obtain ⟨after, links, removed, relinked, outside⟩ := removeObject_ok forest isObject
    refine ⟨after, _, removed, ⟨relinked.same.hasObjects has, outside.forest.congr relinked.links⟩,
      fun _ _ _ => rfl, elsewhere, ?_, ?_, relinked.same⟩
    · rw [parent, relinked.link_ok has isObject, outside.orphan]
    · rw [sibling, relinked.link_ok has isObject, outside.last]
  · rintro ⟨error, failed, -⟩
    apply Classical.byContradiction
    intro apart
    obtain ⟨after, links, inserted, -⟩ := insertObject_ok forest isObject isDestination apart
    rw [inserted] at failed
    cases failed
  · intro cycle
    exact ⟨_, insertObject_cycle forest isObject isDestination cycle, rfl⟩
  · intro apart
    obtain ⟨after, links, inserted, relinked, inside, linked⟩ :=
      insertObject_ok forest isObject isDestination apart
    refine ⟨after, _, inserted, ⟨relinked.same.hasObjects has, linked.congr relinked.links⟩, ?_, ?_,
      ?_, ?_, relinked.same⟩
    · simp only [ite_true]
    · intro parent isParent other _
      simp only [other, ite_false]
    · intro parent isParent other different
      simp only [other, ite_false]
      exact elsewhere parent isParent different
    · rw [parent, relinked.link_ok has isObject, inside]

/-- The first of four objects has the second and the third as children, and the third the fourth. -/
def familyLinks : Links
  | .parent, 2 | .parent, 3 => 1
  | .parent, 4 => 3
  | .sibling, 2 => 3
  | .child, 1 => 2
  | .child, 3 => 4
  | _, _ => 0

def familyChildren : Nat → List Nat
  | 1 => [2, 3]
  | 3 => [4]
  | _ => []

def familyStory : Story where
  format := ⟨.v3, 0, 0⟩
  memory := {
    bytes := imageOfBytes 162 [(0x0b, 0x40), (132, 2), (139, 1), (140, 3), (148, 1), (150, 4),
      (157, 3)]
    staticMark := 162
    fileLength := 0
    pristine := Array.replicate 162 0
    header_le_mark := by decide
    mark_le_size := by simp [imageOfBytes]
    pristine_size := by simp }

private theorem isObject_four {object : Nat} (isObject : IsObject 4 object) :
    object = 1 ∨ object = 2 ∨ object = 3 ∨ object = 4 := by
  obtain ⟨low, high⟩ := isObject
  omega

private theorem family_ancestor {ancestor object : Nat} (isObject : IsObject 4 object)
    (ancestry : Ancestor familyLinks ancestor object) : ancestor < object := by
  have lower : ∀ place, IsObject 4 place → familyLinks .parent place < place := by
    intro place isPlace
    rcases isObject_four isPlace with rfl | rfl | rfl | rfl <;> decide
  induction ancestry with
  | parent up _ =>
    rw [← up]
    exact lower _ isObject
  | above up nonzero _ ih =>
    have down := lower _ isObject
    rw [up] at down
    have high := isObject.2
    exact Nat.lt_trans (ih ⟨Nat.pos_of_ne_zero nonzero, by omega⟩) down

theorem familyLinks_forest : familyLinks.Forest 4 familyChildren where
  bounded link object isObject := by
    rcases isObject_four isObject with rfl | rfl | rfl | rfl <;> cases link <;> decide
  chained object isObject := by
    rcases isObject_four isObject with rfl | rfl | rfl | rfl <;>
      simp [Chain, familyChildren, familyLinks]
  distinct object isObject := by
    rcases isObject_four isObject with rfl | rfl | rfl | rfl <;> decide
  parented object parent isObject isParent := by
    rcases isObject_four isObject with rfl | rfl | rfl | rfl <;>
      rcases isObject_four isParent with rfl | rfl | rfl | rfl <;> decide
  alone object isObject := by
    rcases isObject_four isObject with rfl | rfl | rfl | rfl <;> decide
  acyclic object isObject ancestry := Nat.lt_irrefl _ (family_ancestor isObject ancestry)

theorem familyStory_forest : familyStory.Forest 4 familyChildren where
  objects := {
    afterHeader := by decide +kernel
    dynamic := by
      intro object isObject
      rcases isObject_four isObject with rfl | rfl | rfl | rfl <;> decide +kernel
    numbered := by decide }
  linked := by
    apply familyLinks_forest.congr
    intro link object isObject
    rcases isObject_four isObject with rfl | rfl | rfl | rfl <;> cases link <;> decide +kernel

theorem moveObject_forest_family :
    (∃ after kept, insertObject 2 4 familyStory = .ok () after ∧ after.Forest 4 kept ∧
      kept 4 = [2] ∧ kept 1 = [3] ∧ kept 3 = [4]) ∧
    ∃ error, insertObject 1 4 familyStory = .error error familyStory ∧
      error.code = .invalidObjectTree := by
  have isObject : ∀ object, object ∈ [1, 2, 3, 4] → IsObject 4 object := by
    intro object member
    simp only [List.mem_cons, List.not_mem_nil, or_false] at member
    exact ⟨by omega, by omega⟩
  have fourth : familyStory.links .parent 4 = 3 := by decide +kernel
  have third : familyStory.links .parent 3 = 1 := by decide +kernel
  have first : familyStory.links .parent 1 = 0 := by decide +kernel
  have second : familyStory.parent 2 = .ok (familyStory.links .parent 2) :=
    link_ok familyStory_forest.objects (isObject 2 (by simp)) .parent
  have inside : familyStory.links .parent 2 = 1 := by decide +kernel
  rw [inside] at second
  constructor
  · have apart : ¬ (2 = 4 ∨ Ancestor familyStory.links 2 4) := by
      rw [Ancestor.iff_parent, fourth, Ancestor.iff_parent, third, Ancestor.iff_parent, first]
      simp
    obtain ⟨after, kept, inserted, forest, front, old, others, -⟩ :=
      (moveObject_forest familyStory_forest (isObject 2 (by simp)) (isObject 4 (by simp))).2.2 apart
    refine ⟨after, kept, inserted, forest, front, old 1 (isObject 1 (by simp)) (by decide) second,
      others 3 (isObject 3 (by simp)) (by decide) ?_⟩
    rw [second]
    intro same
    cases same
  · apply (moveObject_forest familyStory_forest (isObject 1 (by simp))
      (isObject 4 (by simp))).2.1.mpr
    rw [Ancestor.iff_parent, fourth, Ancestor.iff_parent, third]
    simp

end Update

end StoryMachine
