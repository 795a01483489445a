import CommittedChoice.Proofs.Json.Derivation

/-! Collecting members. Inserting one keeps the keys in order and changes what is found under its
own key only, and members in order are told by what is found under each key. -/
namespace CommittedChoice.Json

variable {key other : String} {value : Json} {members first second : List (String × Json)}

def Sorted (members : List (String × Json)) : Prop :=
  members.Pairwise fun first second => first.1 < second.1

theorem lookup_member (member : String × Json) (members : List (String × Json)) :
    (member :: members).lookup other =
      if other = member.1 then some member.2 else members.lookup other := by
  obtain ⟨name, value⟩ := member
  rw [List.lookup_cons]
  by_cases same : other = name
  · simp [same]
  · have different : (other == name) = false := by simpa using same
    simp [same, different]

theorem lookup_insertMember :
    (insertMember key value members).lookup other =
      if other = key then some value else members.lookup other := by
  induction members with
  | nil => simp [insertMember, lookup_member]
  | cons head rest ih =>
    obtain ⟨name, old⟩ := head
    by_cases before : key < name
    · simp [insertMember, lookup_member, before]
    · by_cases found : key = name
      · subst found
        by_cases same : other = key
        · simp [insertMember, same]
        · simp [insertMember, lookup_member, same]
      · simp only [insertMember, before, found, if_false, lookup_member, ih]
        by_cases same : other = name
        · have differs : ¬other = key := fun equal => found (equal.symm.trans same)
          simp only [same, if_true]
          rw [if_neg fun equal => found equal.symm]
        · simp only [same, if_false]

theorem mem_insertMember {member : String × Json}
    (inserted : member ∈ insertMember key value members) :
    member = (key, value) ∨ member ∈ members := by
  induction members with
  | nil => exact .inl (List.mem_singleton.mp inserted)
  | cons head rest ih =>
    rw [insertMember] at inserted
    split at inserted
    next => simpa using inserted
    next =>
      split at inserted
      next =>
        rcases List.mem_cons.mp inserted with new | old
        · exact .inl new
        · exact .inr (List.mem_cons_of_mem _ old)
      next =>
        rcases List.mem_cons.mp inserted with same | later
        · exact .inr (same ▸ List.mem_cons_self)
        · exact (ih later).imp id (List.mem_cons_of_mem _)

theorem sorted_insertMember (sorted : Sorted members) : Sorted (insertMember key value members) := by
  induction members with
  | nil => exact List.pairwise_singleton _ _
  | cons head rest ih =>
    obtain ⟨name, old⟩ := head
    obtain ⟨smallest, ordered⟩ := List.pairwise_cons.mp sorted
    rw [insertMember]
    split
    next before =>
      refine List.pairwise_cons.mpr ⟨fun member later => ?_, sorted⟩
      rcases List.mem_cons.mp later with rfl | later
      · exact before
      · exact String.lt_trans before (smallest member later)
    next unordered =>
      split
      next same =>
        subst same
        exact List.pairwise_cons.mpr ⟨smallest, ordered⟩
      next differs =>
        refine List.pairwise_cons.mpr ⟨fun member later => ?_, ih ordered⟩
        rcases mem_insertMember later with rfl | later
        · exact Decidable.byContradiction fun behind =>
            differs (String.le_antisymm (String.not_lt.mp behind) (String.not_lt.mp unordered))
        · exact smallest member later

theorem collects_foldl (written : List (String × Json)) :
    Collects written
      (written.foldl (fun sorted member => insertMember member.1 member.2 sorted) []) := by
  suffices collected : ∀ before : List (String × Json), ∀ sorted, Collects before sorted →
      Collects (before ++ written)
        (written.foldl (fun sorted member => insertMember member.1 member.2 sorted) sorted) from
    collected [] [] ⟨List.Pairwise.nil, fun _ => rfl⟩
  induction written with
  | nil => exact fun before sorted known => by simpa using known
  | cons member written ih =>
    intro before sorted known
    have next : Collects (before ++ [member]) (insertMember member.1 member.2 sorted) := by
      refine ⟨sorted_insertMember known.sorted, fun key => ?_⟩
      rw [lookup_insertMember, known.last]
      rw [List.reverse_append, List.reverse_singleton, List.singleton_append, lookup_member]
    simpa using ih (before ++ [member]) _ next

/-- What is found under a key stands in the list. -/
theorem mem_of_lookup (found : members.lookup key = some value) : (key, value) ∈ members := by
  induction members with
  | nil => cases found
  | cons head rest ih =>
    rw [lookup_member] at found
    split at found
    next same =>
      cases found
      exact same ▸ List.mem_cons_self
    next => exact List.mem_cons_of_mem _ (ih found)

/-- No later member has the first key. -/
theorem lookup_head {head : String × Json} (sorted : Sorted (head :: members)) :
    members.lookup head.1 = none := by
  cases found : members.lookup head.1 with
  | none => rfl
  | some value =>
    have before := (List.pairwise_cons.mp sorted).1 _ (mem_of_lookup found)
    exact absurd before (String.lt_irrefl head.1)

/-- The first of the keys in one list is not before the first in the other. -/
theorem head_le {head next : String × Json} (sorted : Sorted (next :: second))
    (same : ∀ key, (head :: first).lookup key = (next :: second).lookup key) :
    next.1 = head.1 ∨ next.1 < head.1 := by
  have found : (next :: second).lookup head.1 = some head.2 := by
    rw [← same, lookup_member, if_pos rfl]
  rcases List.mem_cons.mp (mem_of_lookup found) with equal | later
  · exact .inl (congrArg Prod.fst equal).symm
  · exact .inr ((List.pairwise_cons.mp sorted).1 _ later)

theorem Sorted.ext (sorted : Sorted first) (sorted' : Sorted second)
    (same : ∀ key, first.lookup key = second.lookup key) : first = second := by
  induction first generalizing second with
  | nil =>
    cases second with
    | nil => rfl
    | cons next second =>
      have found := same next.1
      rw [lookup_member, if_pos rfl] at found
      cases found
  | cons head first ih =>
    cases second with
    | nil =>
      have found := same head.1
      rw [lookup_member, if_pos rfl] at found
      cases found
    | cons next second =>
      have name : head.1 = next.1 := by
        rcases head_le sorted' same with equal | before
        · exact equal.symm
        · rcases head_le sorted (fun key => (same key).symm) with equal | after
          · exact equal
          · exact absurd after (String.lt_asymm before)
      have content : head.2 = next.2 := by
        have found := same head.1
        rw [lookup_member, lookup_member, if_pos rfl, if_pos name] at found
        exact Option.some.inj found
      have rest : ∀ key, first.lookup key = second.lookup key := by
        intro key
        by_cases first_key : key = head.1
        · rw [first_key, lookup_head sorted, name, lookup_head sorted']
        · have found := same key
          rwa [lookup_member, lookup_member, if_neg first_key, if_neg (name ▸ first_key)] at found
      rw [Prod.ext name content,
        ih (List.pairwise_cons.mp sorted).2 (List.pairwise_cons.mp sorted').2 rest]

/-- Members in order with each key once are collected as they are. -/
theorem Sorted.collects (sorted : Sorted members) : Collects members members := by
  refine ⟨sorted, fun key => ?_⟩
  induction members with
  | nil => rfl
  | cons head rest ih =>
    rw [List.reverse_cons, List.lookup_append, ← ih (List.pairwise_cons.mp sorted).2]
    rw [lookup_member, lookup_member]
    by_cases same : key = head.1
    · simp [same, lookup_head sorted]
    · simp [same]

/-- What is collected is what collecting one by one makes. -/
theorem ofMembers_eq_iff (written : List (String × Json)) :
    ofMembers written = .object members ↔ Collects written members := by
  have collected := collects_foldl written
  rw [ofMembers, Json.object.injEq]
  constructor
  · rintro rfl
    exact collected
  · intro known
    exact Sorted.ext collected.sorted known.sorted fun key =>
      (collected.last key).trans (known.last key).symm

end CommittedChoice.Json
