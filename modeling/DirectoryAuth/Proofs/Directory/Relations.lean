import DirectoryAuth.Proofs.Directory.Entry

/-! A user and a group over whole histories of additions and renamings. What they refer to are sets
of entries, written down in the order in which the entries came: an entry is put at the end unless
the same one is there, and stays, whatever its owner is called by then. -/
namespace DirectoryAuth

/-! ### Lists that a new element is added to -/

section
variable {α : Type} {same : α → α → Bool}

/-- No element is the same as one before it. -/
def NoneTwice (same : α → α → Bool) (list : List α) : Prop :=
  list.Pairwise fun a b => same a b = false

instance (list : List α) : Decidable (NoneTwice same list) :=
  inferInstanceAs (Decidable (list.Pairwise _))

/-- The list with an element added, if there is one to add. -/
def addOption (same : α → α → Bool) (kept : List α) (new : Option α) : List α :=
  new.elim kept (addNew same kept)

/-- At most one element is added, at the end. -/
theorem addOption_eq_append (kept : List α) (new : Option α) :
    ∃ added : Option α, addOption same kept new = kept ++ added.toList := by
  cases new with
  | none => exact ⟨none, (List.append_nil kept).symm⟩
  | some a =>
    rw [addOption, Option.elim_some, addNew]
    split
    · exact ⟨none, (List.append_nil kept).symm⟩
    · exact ⟨some a, rfl⟩

section
variable (h : Equivalence fun a b => same a b = true)
include h

theorem any_addNew_self (kept : List α) (a : α) : (addNew same kept a).any (same a) = true := by
  rw [addNew]
  split
  · next hany => exact hany
  · simp [h.refl a]

/-- A list has either all elements that are the same or none of them. -/
theorem any_same_congr {a b : α} (hab : same a b = true) {kept : List α}
    (ha : kept.any (same a) = true) : kept.any (same b) = true := by
  obtain ⟨k, hk, hak⟩ := List.any_eq_true.mp ha
  exact List.any_eq_true.mpr ⟨k, hk, h.trans (h.symm hab) hak⟩

theorem noneTwice_addOption {kept : List α} (hkept : NoneTwice same kept) (new : Option α) :
    NoneTwice same (addOption same kept new) := by
  cases new with
  | none => exact hkept
  | some a =>
    rw [addOption, Option.elim_some, addNew]
    split
    · exact hkept
    · next hnew =>
      refine List.pairwise_append.mpr ⟨hkept, List.pairwise_singleton _ _, ?_⟩
      intro k hk b hb
      obtain rfl := List.mem_singleton.mp hb
      rw [Bool.eq_false_iff]
      intro hkb
      exact hnew (List.any_eq_true.mpr ⟨k, hk, h.symm hkb⟩)

end

end

theorem Text.sameLowercase_equivalence {α : Type} (text : α → String) :
    Equivalence fun a b : α => sameLowercase (text a) (text b) = true where
  refl a := by simp [sameLowercase]
  symm h := by
    rw [sameLowercase, beq_iff_eq] at *
    exact h.symm
  trans := sameLowercase_trans

theorem DistinguishedName.same_equivalence :
    Equivalence fun a b : DistinguishedName => a.same b = true :=
  Text.sameLowercase_equivalence toString

theorem Account.same_equivalence : Equivalence fun a b : Account => a.same b = true :=
  Text.sameLowercase_equivalence toString

/-! ### Histories of a user and a group -/

/-- A user and a group, each of which may refer to the other. -/
structure Relations where
  user : User := {}
  group : Group := {}

namespace Relations

/-- What can be done with a user and a group. -/
inductive Operation where
  | addGroup (group : Group)
  | addMember (user : User)
  /-- The user and the group come to refer to each other, under the names that they have now. -/
  | join
  | renameUser (account : Account)
  | renameGroup (name : DistinguishedName)

def perform (r : Relations) : Operation → Relations
  | .addGroup group => { r with user := r.user.addGroup group.name }
  | .addMember user => { r with group := r.group.addMember user.account }
  | .join =>
    let joined := DirectoryAuth.join r.user r.group
    ⟨joined.1, joined.2⟩
  | .renameUser account => { r with user := { r.user with account := account } }
  | .renameGroup name => { r with group := { r.group with name := name } }

def run (r : Relations) (operations : List Operation) : Relations := operations.foldl perform r

namespace Operation

/-- Whether both entries keep their own names. -/
def Adds : Operation → Prop
  | addGroup _ | addMember _ | join => True
  | renameUser _ | renameGroup _ => False

/-- The group that an operation adds to those of the user. -/
def newGroup? (r : Relations) : Operation → Option DistinguishedName
  | addGroup group => some group.name
  | join => some r.group.name
  | addMember _ | renameUser _ | renameGroup _ => none

/-- The member that an operation adds to those of the group. -/
def newMember? (r : Relations) : Operation → Option Account
  | addMember user => some user.account
  | join => some r.user.account
  | addGroup _ | renameUser _ | renameGroup _ => none

end Operation

variable (r : Relations)

/-- All that an operation does to the groups of the user. -/
theorem groups_perform (operation : Operation) : (r.perform operation).user.groups =
    addOption DistinguishedName.same r.user.groups (operation.newGroup? r) := by
  cases operation with
  | addGroup group => exact congrArg User.groups (r.user.addGroup_eq group.name)
  | join => exact congrArg User.groups (r.user.addGroup_eq r.group.name)
  | addMember _ | renameUser _ | renameGroup _ => rfl

/-- All that an operation does to the members of the group. -/
theorem members_perform (operation : Operation) : (r.perform operation).group.members =
    addOption Account.same r.group.members (operation.newMember? r) := by
  cases operation with
  | addMember user => exact congrArg Group.members (r.group.addMember_eq user.account)
  | join => exact congrArg Group.members (r.group.addMember_eq r.user.account)
  | addGroup _ | renameUser _ | renameGroup _ => rfl

theorem account_perform {operation : Operation} (h : operation.Adds) :
    (r.perform operation).user.account = r.user.account := by
  cases operation with
  | addGroup group => rw [perform, User.addGroup_eq]
  | join => rw [perform, DirectoryAuth.join, User.addGroup_eq]
  | addMember _ => rfl
  | renameUser _ | renameGroup _ => exact h.elim

theorem name_perform {operation : Operation} (h : operation.Adds) :
    (r.perform operation).group.name = r.group.name := by
  cases operation with
  | addMember user => rw [perform, Group.addMember_eq]
  | join => rw [perform, DirectoryAuth.join, Group.addMember_eq]
  | addGroup _ => rfl
  | renameUser _ | renameGroup _ => exact h.elim

/-- Neither list has two entries that are the same. -/
structure Distinct : Prop where
  groups : NoneTwice DistinguishedName.same r.user.groups
  members : NoneTwice Account.same r.group.members

/-- Both lists are continued, by at most one entry each. -/
structure Continues (later : Relations) : Prop where
  groups : ∃ added : Option DistinguishedName,
    later.user.groups = r.user.groups ++ added.toList
  members : ∃ added : Option Account, later.group.members = r.group.members ++ added.toList

variable {r}

theorem Distinct.perform (h : r.Distinct) (operation : Operation) :
    (r.perform operation).Distinct := by
  constructor
  · rw [groups_perform]
    exact noneTwice_addOption DistinguishedName.same_equivalence h.groups _
  · rw [members_perform]
    exact noneTwice_addOption Account.same_equivalence h.members _

theorem Distinct.run (h : r.Distinct) (operations : List Operation) :
    (r.run operations).Distinct := by
  induction operations generalizing r with
  | nil => exact h
  | cons operation rest ih => exact ih (h.perform operation)

variable (r)

theorem continues_perform (operation : Operation) : r.Continues (r.perform operation) := by
  constructor
  · rw [groups_perform]
    exact addOption_eq_append r.user.groups _
  · rw [members_perform]
    exact addOption_eq_append r.group.members _

variable {r}

theorem Continues.isMemberOf {later : Relations} (h : r.Continues later)
    {group : DistinguishedName} (hgroup : r.user.isMemberOf group = true) :
    later.user.isMemberOf group = true := by
  obtain ⟨added, hadded⟩ := h.groups
  rw [User.isMemberOf] at hgroup ⊢
  rw [hadded, List.any_append, hgroup, Bool.true_or]

theorem Continues.hasMember {later : Relations} (h : r.Continues later) {account : Account}
    (hmember : r.group.hasMember account = true) : later.group.hasMember account = true := by
  obtain ⟨added, hadded⟩ := h.members
  rw [Group.hasMember] at hmember ⊢
  rw [hadded, List.any_append, hmember, Bool.true_or]

theorem isMemberOf_run {group : DistinguishedName} (h : r.user.isMemberOf group = true)
    (operations : List Operation) : (r.run operations).user.isMemberOf group = true := by
  induction operations generalizing r with
  | nil => exact h
  | cons operation rest ih => exact ih ((r.continues_perform operation).isMemberOf h)

theorem hasMember_run {account : Account} (h : r.group.hasMember account = true)
    (operations : List Operation) : (r.run operations).group.hasMember account = true := by
  induction operations generalizing r with
  | nil => exact h
  | cons operation rest ih => exact ih ((r.continues_perform operation).hasMember h)

theorem isMemberOf_perform {operation : Operation} {group : DistinguishedName}
    (h : operation.newGroup? r = some group) :
    (r.perform operation).user.isMemberOf group = true := by
  rw [User.isMemberOf, groups_perform, h]
  exact any_addNew_self DistinguishedName.same_equivalence r.user.groups group

theorem hasMember_perform {operation : Operation} {account : Account}
    (h : operation.newMember? r = some account) :
    (r.perform operation).group.hasMember account = true := by
  rw [Group.hasMember, members_perform, h]
  exact any_addNew_self Account.same_equivalence r.group.members account

/-- A group that is the same as one of the user's is not added. -/
theorem perform_addGroup_eq_self {group other : Group} (hsame : group.same other = true)
    (h : r.user.isMemberOf group.name = true) : r.perform (.addGroup other) = r := by
  have hother : r.user.isMemberOf other.name = true :=
    any_same_congr DistinguishedName.same_equivalence hsame h
  rw [perform, User.addGroup, if_pos hother]

theorem perform_addMember_eq_self {user other : User} (hsame : user.same other = true)
    (h : r.group.hasMember user.account = true) : r.perform (.addMember other) = r := by
  have hother : r.group.hasMember other.account = true :=
    any_same_congr Account.same_equivalence hsame h
  rw [perform, Group.addMember, if_pos hother]

/-- To join is to add the group to the user's and then the user to the group's. -/
theorem perform_join (r : Relations) :
    r.perform .join = (r.perform (.addGroup r.group)).perform (.addMember r.user) := rfl

/-- The entries are written as before, under all names of attributes, and the same entries are the
same as they. -/
structure KeepsOwners (r later : Relations) : Prop where
  user_text : ∀ names : AttributeNames, names.formatUser later.user = names.formatUser r.user
  group_text : ∀ names : AttributeNames, names.formatGroup later.group = names.formatGroup r.group
  user_same : ∀ other : User,
    later.user.same other = r.user.same other ∧ other.same later.user = other.same r.user
  group_same : ∀ other : Group,
    later.group.same other = r.group.same other ∧ other.same later.group = other.same r.group

theorem keepsOwners_perform (r : Relations) {operation : Operation} (h : operation.Adds) :
    r.KeepsOwners (r.perform operation) := by
  have huser (names : AttributeNames) :
      names.formatUser (r.perform operation).user = names.formatUser r.user := by
    rw [AttributeNames.formatUser, AttributeNames.formatUser, account_perform r h]
  have hgroup (names : AttributeNames) :
      names.formatGroup (r.perform operation).group = names.formatGroup r.group := by
    rw [AttributeNames.formatGroup, AttributeNames.formatGroup, name_perform r h]
  refine ⟨huser, hgroup, fun other => ⟨?_, ?_⟩, fun other => ⟨?_, ?_⟩⟩
  · exact congrArg (Text.sameLowercase · (toString other)) (huser {})
  · exact congrArg (Text.sameLowercase (toString other)) (huser {})
  · exact congrArg (Text.sameLowercase · (toString other)) (hgroup {})
  · exact congrArg (Text.sameLowercase (toString other)) (hgroup {})

/-- The groups of a user and the members of a group are sets of entries, over every history of
additions and renamings. No entry comes twice, none is lost or moved, and whatever has been added is
there from then on: to add the same entry once more, in any letter case, changes nothing. Additions
leave the names of the two entries alone. -/
theorem run_keeps_sets (r : Relations) (operations : List Operation) :
    (r.Distinct → (r.run operations).Distinct) ∧
    (∀ operation, (r.run operations).Continues ((r.run operations).perform operation)) ∧
    (∀ (group other : Group) (name : DistinguishedName),
      (r.perform (.addGroup group)).user.isMemberOf group.name = true ∧
      (r.user.isMemberOf name = true → (r.run operations).user.isMemberOf name = true) ∧
      (group.same other = true →
        ((r.perform (.addGroup group)).run operations).perform (.addGroup other) =
          (r.perform (.addGroup group)).run operations)) ∧
    (∀ (user other : User) (account : Account),
      (r.perform (.addMember user)).group.hasMember user.account = true ∧
      (r.group.hasMember account = true → (r.run operations).group.hasMember account = true) ∧
      (user.same other = true →
        ((r.perform (.addMember user)).run operations).perform (.addMember other) =
          (r.perform (.addMember user)).run operations)) ∧
    (let joined := r.perform .join
     joined.user.isMemberOf joined.group.name = true ∧
      joined.group.hasMember joined.user.account = true ∧
      (r.user.same (joined.run operations).user = true →
        r.group.same (joined.run operations).group = true →
        (joined.run operations).perform .join = joined.run operations)) ∧
    ∀ operation : Operation, operation.Adds →
      (r.run operations).KeepsOwners ((r.run operations).perform operation) := by
  have hgroup (group : Group) :
      (r.perform (.addGroup group)).user.isMemberOf group.name = true := isMemberOf_perform rfl
  have hmember (user : User) :
      (r.perform (.addMember user)).group.hasMember user.account = true := hasMember_perform rfl
  have hjoined : (r.perform .join).user.isMemberOf r.group.name = true := isMemberOf_perform rfl
  have hjoined' : (r.perform .join).group.hasMember r.user.account = true := hasMember_perform rfl
  refine ⟨fun h => h.run operations, fun operation => continues_perform _ operation, ?_, ?_, ?_,
    fun operation h => keepsOwners_perform _ h⟩
  · intro group other name
    exact ⟨hgroup group, fun h => isMemberOf_run h operations,
      fun hsame => perform_addGroup_eq_self hsame (isMemberOf_run (hgroup group) operations)⟩
  · intro user other account
    exact ⟨hmember user, fun h => hasMember_run h operations,
      fun hsame => perform_addMember_eq_self hsame (hasMember_run (hmember user) operations)⟩
  · have hadds : Operation.join.Adds := trivial
    refine ⟨?_, ?_, ?_⟩
    · rw [name_perform r hadds]
      exact hjoined
    · rw [account_perform r hadds]
      exact hjoined'
    · intro huser hgroup
      rw [perform_join, perform_addGroup_eq_self hgroup (isMemberOf_run hjoined operations),
        perform_addMember_eq_self huser (hasMember_run hjoined' operations)]

/-- A user and a group that are renamed after they have been joined, to names that differ from the
old ones in letter case only: a final sigma, and a Kelvin sign for a letter. -/
theorem run_keeps_sets_renamed :
    let named (name : String) : DistinguishedName := ⟨some name, [], []⟩
    let account (name : String) : Account := { accountName := some name }
    let r : Relations := ⟨⟨account "eve", [named "staff"]⟩, ⟨named "ΟΔΟΣ", [account "bob"]⟩⟩
    let operations : List Operation :=
      [.renameUser (account "EVE"), .addMember ⟨account "al", []⟩, .renameGroup (named "οδος")]
    r.Distinct ∧ (r.run operations).Distinct ∧
      (r.run operations).user.isMemberOf (named "STAFF") = true ∧
      (r.run operations).group.hasMember (account "BOB") = true ∧
      ((r.perform (.addGroup ⟨named "Ops", []⟩)).run operations).perform
        (.addGroup ⟨named "OPS", []⟩) = (r.perform (.addGroup ⟨named "Ops", []⟩)).run operations ∧
      ((r.perform (.addMember ⟨account "kim", []⟩)).run operations).perform
        (.addMember ⟨account "\u212Aim", []⟩) =
          (r.perform (.addMember ⟨account "kim", []⟩)).run operations ∧
      ((r.perform .join).run operations).perform .join = (r.perform .join).run operations ∧
      (r.run operations).KeepsOwners ((r.run operations).perform .join) := by
  intro named account r operations
  have hdistinct : r.Distinct := ⟨by decide +kernel, by decide +kernel⟩
  obtain ⟨hrun, -, hgroups, hmembers, hjoin, hkeeps⟩ := run_keeps_sets r operations
  refine ⟨hdistinct, hrun hdistinct, ?_, ?_, ?_, ?_, ?_, ?_⟩
  · exact (hgroups {} {} (named "STAFF")).2.1 (by decide +kernel)
  · exact (hmembers {} {} (account "BOB")).2.1 (by decide +kernel)
  · exact (hgroups ⟨named "Ops", []⟩ ⟨named "OPS", []⟩ {}).2.2 (by decide +kernel)
  · exact (hmembers ⟨account "kim", []⟩ ⟨account "\u212Aim", []⟩ {}).2.2 (by decide +kernel)
  · exact hjoin.2.2 (by decide +kernel) (by decide +kernel)
  · exact hkeeps .join trivial

end Relations

end DirectoryAuth
