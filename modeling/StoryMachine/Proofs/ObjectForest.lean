import StoryMachine.Proofs.ObjectLinks

/-! Objects form a forest, and moving them keeps it one. The children of an object are a list that
is threaded through sibling links; taking an object out or putting it in front rewrites at most one
link of another object, and the rest of every list stays as it is. -/

namespace StoryMachine

/-- Following `next` from `start` meets these objects in turn, and then ends. -/
def Chain (next : Nat → Nat) : (start : Nat) → List Nat → Prop
  | start, [] => start = 0
  | start, object :: rest => start = object ∧ object ≠ 0 ∧ Chain next (next object) rest

namespace Chain

variable {next other : Nat → Nat} {start : Nat} {objects : List Nat}

/-- A chain depends on the objects that it meets only. -/
theorem congr (chain : Chain next start objects)
    (same : ∀ object ∈ objects, other object = next object) :
    Chain other start objects := by
  induction objects generalizing start with
  | nil => exact chain
  | cons object rest ih =>
    obtain ⟨here, nonzero, later⟩ := chain
    refine ⟨here, nonzero, ?_⟩
    rw [same object (by simp)]
    exact ih later (fun place member => same place (by simp [member]))

theorem isObject {count : Nat} (chain : Chain next start objects) (low : start ≤ count)
    (bounded : ∀ object, IsObject count object → next object ≤ count) :
    ∀ object ∈ objects, IsObject count object := by
  induction objects generalizing start with
  | nil => simp
  | cons first rest ih =>
    obtain ⟨rfl, nonzero, later⟩ := chain
    have isFirst : IsObject count start := ⟨Nat.pos_of_ne_zero nonzero, low⟩
    intro object member
    rcases List.mem_cons.mp member with rfl | member
    · exact isFirst
    · exact ih later (bounded start isFirst) object member

/-- An object other than the first is taken out by making the one before it point past it. -/
theorem bypass {front back : List Nat} {previous object : Nat}
    (chain : Chain next start (front ++ previous :: object :: back))
    (distinct : (front ++ previous :: object :: back).Nodup) :
    Chain (fun place => if place = previous then next object else next place) start
      (front ++ previous :: back) := by
  induction front generalizing start with
  | nil =>
    obtain ⟨rfl, nonzero, there, -, later⟩ := chain
    simp only [List.nil_append, List.nodup_cons, List.mem_cons, not_or] at distinct
    refine ⟨rfl, nonzero, ?_⟩
    simp only [ite_true]
    apply later.congr
    intro place member
    rw [if_neg]
    rintro rfl
    exact distinct.1.2 member
  | cons first front ih =>
    obtain ⟨rfl, nonzero, later⟩ := chain
    simp only [List.cons_append, List.nodup_cons, List.mem_append, List.mem_cons, not_or]
      at distinct
    refine ⟨rfl, nonzero, ?_⟩
    simp only [distinct.1.2.1, ite_false]
    exact ih later distinct.2

end Chain

/-- On the way up from an object through its parents, `ancestor` is met. -/
inductive Ancestor (links : Links) (ancestor : Nat) : (object : Nat) → Prop where
  | parent {object : Nat} (up : links .parent object = ancestor) (nonzero : ancestor ≠ 0) :
    Ancestor links ancestor object
  | above {object parent : Nat} (up : links .parent object = parent) (nonzero : parent ≠ 0)
    (higher : Ancestor links ancestor parent) : Ancestor links ancestor object

namespace Ancestor

variable {links other : Links} {ancestor object descendant : Nat}

theorem iff_parent : Ancestor links ancestor object ↔ links .parent object ≠ 0 ∧
    (ancestor = links .parent object ∨ Ancestor links ancestor (links .parent object)) := by
  constructor
  · intro ancestry
    cases ancestry with
    | parent up nonzero => exact ⟨up.symm ▸ nonzero, .inl up.symm⟩
    | above up nonzero higher => exact ⟨up.symm ▸ nonzero, .inr (up.symm ▸ higher)⟩
  · rintro ⟨nonzero, rfl | higher⟩
    · exact .parent rfl nonzero
    · exact .above rfl nonzero higher

theorem trans (higher : Ancestor links ancestor object) (lower : Ancestor links object descendant) :
    Ancestor links ancestor descendant := by
  induction lower with
  | parent up nonzero => exact .above up nonzero higher
  | above up nonzero _ ih => exact .above up nonzero ih

/-- Where parents are only lost, no ancestor is gained. -/
theorem mono (ancestry : Ancestor other ancestor object)
    (fewer : ∀ place, other .parent place = links .parent place ∨ other .parent place = 0) :
    Ancestor links ancestor object := by
  induction ancestry with
  | @parent object up nonzero =>
    rcases fewer object with same | none
    · exact .parent (same.symm.trans up) nonzero
    · exact absurd (up.symm.trans none) nonzero
  | @above object parent up nonzero _ ih =>
    rcases fewer object with same | none
    · exact .above (same.symm.trans up) nonzero ih
    · exact absurd (up.symm.trans none) nonzero

end Ancestor

def Links.orphan (links : Links) (object : Nat) : Links :=
  (links.set .parent object 0).set .sibling object 0

namespace Links

variable (links : Links)

theorem orphan_parent (object : Nat) : links.orphan object .parent object = 0 := by
  simp [orphan, set]

theorem orphan_sibling (object : Nat) : links.orphan object .sibling object = 0 := by
  simp [orphan, set]

theorem orphan_child (object place : Nat) :
    links.orphan object .child place = links .child place := by
  simp [orphan, set]

theorem orphan_parent_of_ne {object place : Nat} (different : place ≠ object) :
    links.orphan object .parent place = links .parent place := by
  simp [orphan, set, different]

theorem orphan_sibling_of_ne {object place : Nat} (different : place ≠ object) :
    links.orphan object .sibling place = links .sibling place := by
  simp [orphan, set, different]

end Links

/-- The objects up to `count` form a forest, in which each has these children in this order. -/
structure Links.Forest (links : Links) (count : Nat) (children : Nat → List Nat) : Prop where
  bounded : ∀ link object, IsObject count object → links link object ≤ count
  chained : ∀ object, IsObject count object →
    Chain (links .sibling) (links .child object) (children object)
  distinct : ∀ object, IsObject count object → (children object).Nodup
  parented : ∀ object parent, IsObject count object → IsObject count parent →
    (links .parent object = parent ↔ object ∈ children parent)
  alone : ∀ object, IsObject count object → links .parent object = 0 → links .sibling object = 0
  acyclic : ∀ object, IsObject count object → ¬ Ancestor links object object

namespace Links.Forest

variable {links other : Links} {count : Nat} {children : Nat → List Nat}

theorem isObject_child (forest : links.Forest count children) {parent : Nat}
    (isParent : IsObject count parent) : ∀ object ∈ children parent, IsObject count object :=
  (forest.chained parent isParent).isObject (forest.bounded .child parent isParent)
    (fun object isObject => forest.bounded .sibling object isObject)

theorem isObject_parent (forest : links.Forest count children) {object : Nat}
    (isObject : IsObject count object) (nonzero : links .parent object ≠ 0) :
    IsObject count (links .parent object) :=
  ⟨Nat.pos_of_ne_zero nonzero, forest.bounded .parent object isObject⟩

/-- An object is in the list of its parent and in no other. -/
theorem erase_of_ne (forest : links.Forest count children) {object parent : Nat}
    (isObject : IsObject count object) (isParent : IsObject count parent)
    (different : links .parent object ≠ parent) :
    (children parent).erase object = children parent := by
  apply List.erase_of_not_mem
  rw [← forest.parented object parent isObject isParent]
  exact different

private theorem ancestor_congr (forest : links.Forest count children) {ancestor object : Nat}
    (same : ∀ place, IsObject count place → other .parent place = links .parent place)
    (isObject : IsObject count object) (ancestry : Ancestor other ancestor object) :
    Ancestor links ancestor object := by
  induction ancestry with
  | parent up nonzero => exact .parent ((same _ isObject).symm.trans up) nonzero
  | @above object parent up nonzero _ ih =>
    have up' := (same _ isObject).symm.trans up
    subst up'
    exact .above rfl nonzero (ih (forest.isObject_parent isObject nonzero))

/-- A forest depends on the links of its own objects only. -/
theorem congr (forest : links.Forest count children)
    (same : ∀ link object, IsObject count object → other link object = links link object) :
    other.Forest count children where
  bounded link object isObject := by
    rw [same link object isObject]
    exact forest.bounded link object isObject
  chained object isObject := by
    rw [same .child object isObject]
    apply (forest.chained object isObject).congr
    intro place member
    exact same .sibling place (forest.isObject_child isObject place member)
  distinct := forest.distinct
  parented object parent isObject isParent := by
    rw [same .parent object isObject]
    exact forest.parented object parent isObject isParent
  alone object isObject := by
    rw [same .parent object isObject, same .sibling object isObject]
    exact forest.alone object isObject
  acyclic object isObject ancestry :=
    forest.acyclic object isObject
      (forest.ancestor_congr (fun place isPlace => same .parent place isPlace) isObject ancestry)

theorem children_congr (forest : links.Forest count children) {others : Nat → List Nat}
    (same : ∀ place, IsObject count place → others place = children place) :
    links.Forest count others where
  bounded := forest.bounded
  chained object isObject := by
    rw [same object isObject]
    exact forest.chained object isObject
  distinct object isObject := by
    rw [same object isObject]
    exact forest.distinct object isObject
  parented object parent isObject isParent := by
    rw [same parent isParent]
    exact forest.parented object parent isObject isParent
  alone := forest.alone
  acyclic := forest.acyclic

/-- Before a child that is not the first there is another one. -/
theorem exists_previous (forest : links.Forest count children) {object : Nat}
    (isObject : IsObject count object) (nonzero : links .parent object ≠ 0)
    (later : links .child (links .parent object) ≠ object) :
    ∃ front previous back,
      children (links .parent object) = front ++ previous :: object :: back := by
  have isParent := forest.isObject_parent isObject nonzero
  have member := (forest.parented object _ isObject isParent).mp rfl
  have chain := forest.chained _ isParent
  obtain ⟨before, back, listed⟩ := List.append_of_mem member
  rcases List.eq_nil_or_concat before with rfl | ⟨front, previous, rfl⟩
  · rw [listed] at chain
    exact absurd chain.1 later
  · exact ⟨front, previous, back, by simp [listed]⟩

/-- An object is out of the forest once the lists without it are chained and it has neither parent
nor sibling. -/
private theorem detach (forest : links.Forest count children) {object : Nat}
    (isObject : IsObject count object) {relinked : Links}
    (bounded : ∀ link place, IsObject count place → relinked link place ≤ count)
    (chained : ∀ place, IsObject count place →
      Chain (relinked .sibling) (relinked .child place) ((children place).erase object))
    (parents : ∀ place, relinked .parent place = links .parent place)
    (siblings : ∀ place, IsObject count place → links .parent place = 0 →
      relinked .sibling place = links .sibling place) :
    (relinked.orphan object).Forest count (fun place => (children place).erase object) where
  bounded := Links.set_le (Nat.zero_le _) (Links.set_le (Nat.zero_le _) bounded _ _) _ _
  chained place isPlace := by
    rw [orphan_child]
    apply (chained place isPlace).congr
    intro member present
    apply orphan_sibling_of_ne
    rintro rfl
    exact ((forest.distinct place isPlace).mem_erase_iff.mp present).1 rfl
  distinct place isPlace := (forest.distinct place isPlace).erase object
  parented place parent isPlace isParent := by
    by_cases same : place = object
    · subst same
      have nonzero := isParent.1
      rw [orphan_parent, (forest.distinct parent isParent).mem_erase_iff]
      constructor
      · intro none
        omega
      · intro member
        exact absurd rfl member.1
    · rw [orphan_parent_of_ne _ same, parents, List.mem_erase_of_ne same]
      exact forest.parented place parent isPlace isParent
  alone place isPlace none := by
    by_cases same : place = object
    · subst same
      exact orphan_sibling _ _
    · rw [orphan_parent_of_ne _ same, parents] at none
      rw [orphan_sibling_of_ne _ same, siblings place isPlace none]
      exact forest.alone place isPlace none
  acyclic place isPlace ancestry := by
    apply forest.acyclic place isPlace
    apply ancestry.mono
    intro other
    by_cases same : other = object
    · subst same
      exact .inr (orphan_parent _ _)
    · exact .inl ((orphan_parent_of_ne _ same).trans (parents other))

theorem remove_first (forest : links.Forest count children) {object parent : Nat}
    (isObject : IsObject count object) (isParent : IsObject count parent)
    (up : links .parent object = parent) (first : links .child parent = object) :
    ((links.set .child parent (links .sibling object)).orphan object).Forest count
      (fun place => (children place).erase object) := by
  apply forest.detach isObject
  · exact Links.set_le (forest.bounded .sibling object isObject) forest.bounded _ _
  · intro place isPlace
    have chain := forest.chained place isPlace
    by_cases same : place = parent
    · subst same
      rw [Links.set_same]
      cases listed : children place with
      | nil =>
        rw [listed, first] at chain
        exact absurd chain (Nat.ne_of_gt isObject.1)
      | cons head back =>
        rw [listed, first] at chain
        obtain ⟨rfl, -, later⟩ := chain
        rw [List.erase_cons_head]
        exact later
    · rw [Links.set_object _ _ _ same,
        forest.erase_of_ne isObject isPlace (by rw [up]; exact Ne.symm same)]
      exact chain
  · intro place
    rfl
  · intro place _ _
    rfl

theorem remove_later (forest : links.Forest count children) {object previous parent : Nat}
    (isObject : IsObject count object) (isParent : IsObject count parent)
    (up : links .parent object = parent) {front back : List Nat}
    (listed : children parent = front ++ previous :: object :: back) :
    ((links.set .sibling previous (links .sibling object)).orphan object).Forest count
      (fun place => (children place).erase object) := by
  have distinct := forest.distinct parent isParent
  rw [listed] at distinct
  have isPrevious : IsObject count previous :=
    forest.isObject_child isParent previous (by simp [listed])
  have below : links .parent previous = parent :=
    (forest.parented previous parent isPrevious isParent).mpr (by simp [listed])
  apply forest.detach isObject
  · exact Links.set_le (forest.bounded .sibling object isObject) forest.bounded _ _
  · intro place isPlace
    have chain := forest.chained place isPlace
    by_cases same : place = parent
    · subst same
      have shorter : (children place).erase object = front ++ previous :: back := by
        rw [listed]
        simp only [List.nodup_append, List.nodup_cons, List.mem_cons, not_or] at distinct
        have apart : object ∉ front := fun member =>
          distinct.2.2 object member object (by simp) rfl
        rw [List.erase_append_right _ apart, List.erase_cons_tail, List.erase_cons_head]
        simpa using distinct.2.1.1.1
      rw [listed] at chain
      rw [shorter]
      exact (chain.bypass distinct).congr (by simp [Links.set])
    · rw [forest.erase_of_ne isObject isPlace (by rw [up]; exact Ne.symm same)]
      apply chain.congr
      intro member present
      apply Links.set_object
      rintro rfl
      exact same (((forest.parented _ place isPrevious isPlace).mpr present).symm.trans below)
  · intro place
    rfl
  · intro place _ none
    apply Links.set_object
    rintro rfl
    exact absurd (below.symm.trans none) (Nat.ne_of_gt isParent.1)

/-- An ancestor through a new parent is one from before, or the way up leads from the object to its
destination. -/
private theorem ancestor_insert {object destination ancestor descendant : Nat}
    (parents : ∀ place, place ≠ object → other .parent place = links .parent place)
    (moved : other .parent object = destination)
    (ancestry : Ancestor other ancestor descendant) :
    Ancestor links ancestor descendant ∨
      ((descendant = object ∨ Ancestor links object descendant) ∧
        (ancestor = destination ∨ Ancestor links ancestor destination)) := by
  induction ancestry with
  | @parent descendant up nonzero =>
    by_cases same : descendant = object
    · subst same
      exact .inr ⟨.inl rfl, .inl (up.symm.trans moved)⟩
    · exact .inl (.parent ((parents _ same).symm.trans up) nonzero)
  | @above descendant parent up nonzero _ ih =>
    by_cases same : descendant = object
    · subst same
      obtain rfl : parent = destination := up.symm.trans moved
      rcases ih with old | new
      · exact .inr ⟨.inl rfl, .inr old⟩
      · exact .inr ⟨.inl rfl, new.2⟩
    · have kept := (parents _ same).symm.trans up
      rcases ih with old | ⟨rfl | below, top⟩
      · exact .inl (.above kept nonzero old)
      · exact .inr ⟨.inr (.parent kept nonzero), top⟩
      · exact .inr ⟨.inr (.above kept nonzero below), top⟩

/-- An orphan that is not above its destination becomes its first child. -/
theorem insert (forest : links.Forest count children) {object destination : Nat}
    (isObject : IsObject count object) (isDestination : IsObject count destination)
    (orphan : links .parent object = 0) (different : object ≠ destination)
    (apart : ¬ Ancestor links object destination) :
    (((links.set .sibling object (links .child destination)).set .child destination object).set
      .parent object destination).Forest count
      (fun place => if place = destination then object :: children place else children place) := by
  have absent : ∀ place, IsObject count place → object ∉ children place := by
    intro place isPlace member
    rw [← forest.parented object place isObject isPlace, orphan] at member
    exact absurd member.symm (Nat.ne_of_gt isPlace.1)
  have kept : ∀ place, IsObject count place →
      Chain ((links.set .sibling object (links .child destination)) .sibling)
        (links .child place) (children place) := by
    intro place isPlace
    apply (forest.chained place isPlace).congr
    intro member present
    apply Links.set_object
    rintro rfl
    exact absent place isPlace present
  constructor
  case bounded =>
    apply Links.set_le isDestination.2
    apply Links.set_le isObject.2
    exact Links.set_le (forest.bounded .child destination isDestination) forest.bounded _ _
  case chained =>
    intro place isPlace
    by_cases same : place = destination
    · subst same
      simp only [ite_true]
      refine ⟨by simp [Links.set], Nat.ne_of_gt isObject.1, ?_⟩
      rw [Links.set_link _ (by decide), Links.set_link _ (by decide), Links.set_same]
      exact kept place isPlace
    · simp only [same, ite_false]
      rw [Links.set_link _ (by decide), Links.set_object _ _ _ same, Links.set_link _ (by decide)]
      exact kept place isPlace
  case distinct =>
    intro place isPlace
    by_cases same : place = destination
    · simp only [same, ite_true]
      exact List.nodup_cons.mpr
        ⟨absent destination isDestination, forest.distinct destination isDestination⟩
    · simp only [same, ite_false]
      exact forest.distinct place isPlace
  case parented =>
    intro place parent isPlace isParent
    by_cases same : place = object
    · subst same
      rw [Links.set_same]
      by_cases chosen : parent = destination
      · simp [chosen]
      · simp only [chosen, ite_false]
        constructor
        · intro impossible
          exact absurd impossible.symm chosen
        · intro member
          exact absurd member (absent parent isParent)
    · rw [Links.set_object _ _ _ same, Links.set_link _ (by decide), Links.set_link _ (by decide),
        forest.parented place parent isPlace isParent]
      by_cases chosen : parent = destination
      · simp [chosen, same]
      · simp [chosen]
  case alone =>
    intro place isPlace none
    by_cases same : place = object
    · subst same
      rw [Links.set_same] at none
      exact absurd none (Nat.ne_of_gt isDestination.1)
    · rw [Links.set_object _ _ _ same, Links.set_link _ (by decide),
        Links.set_link _ (by decide)] at none
      rw [Links.set_object _ _ _ same, Links.set_link _ (by decide), Links.set_object _ _ _ same]
      exact forest.alone place isPlace none
  case acyclic =>
    intro place isPlace ancestry
    have parents : ∀ member, member ≠ object →
        ((links.set .sibling object (links .child destination)).set .child destination object).set
          .parent object destination .parent member = links .parent member := by
      intro member other
      rw [Links.set_object _ _ _ other, Links.set_link _ (by decide), Links.set_link _ (by decide)]
    rcases ancestor_insert parents (Links.set_same _ _ _ _) ancestry with old | ⟨below, above⟩
    · exact forest.acyclic place isPlace old
    · rcases below with rfl | below
      · rcases above with same | above
        · exact different same
        · exact apart above
      · rcases above with rfl | above
        · exact apart below
        · exact apart (below.trans above)

end Links.Forest

end StoryMachine
