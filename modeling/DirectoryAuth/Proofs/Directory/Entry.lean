import DirectoryAuth.Proofs.Dn.RoundTrip

/-! References of the entries that a search returns. The attributes of an entry come in no
particular order; where no two of them have the same name, the order does not matter, and what a
user or a group refers to is what the values of one attribute, or of one and its parts, name. -/
namespace DirectoryAuth

/-- The elements that are the same as none of `before` and as none that stands before them. -/
def firsts {α : Type} (same : α → α → Bool) (before : List α) : List α → List α
  | [] => []
  | a :: rest =>
    if before.any (same a) then firsts same (a :: before) rest
    else a :: firsts same (a :: before) rest

section
variable {α : Type} {same : α → α → Bool}

/-- Puts an element at the end unless the same one is there already. -/
def addNew (same : α → α → Bool) (kept : List α) (a : α) : List α :=
  if kept.any (same a) then kept else kept ++ [a]

/-- What has been kept stands for all that has been seen. -/
theorem foldl_addNew (htrans : ∀ a b c, same a b = true → same b c = true → same a c = true)
    {kept before : List α} (h : ∀ a, kept.any (same a) = before.any (same a)) (list : List α) :
    list.foldl (addNew same) kept = kept ++ firsts same before list := by
  induction list generalizing kept before with
  | nil => exact (List.append_nil kept).symm
  | cons a rest ih =>
    rw [List.foldl_cons, addNew, firsts, h a]
    by_cases hseen : before.any (same a) = true
    · have hkept : ∀ b, kept.any (same b) = (a :: before).any (same b) := by
        intro b
        rw [List.any_cons, ← h b]
        cases hb : same b a with
        | false => rfl
        | true =>
          obtain ⟨k, hk, hak⟩ := List.any_eq_true.mp ((h a).trans hseen)
          exact List.any_eq_true.mpr ⟨k, hk, htrans b a k hb hak⟩
      rw [if_pos hseen, if_pos hseen, ih hkept]
    · have hkept : ∀ b, (kept ++ [a]).any (same b) = (a :: before).any (same b) := by
        intro b
        rw [List.any_append, List.any_cons, List.any_cons, List.any_nil, Bool.or_false, h b,
          Bool.or_comm]
      rw [if_neg hseen, if_neg hseen, ih hkept, List.append_assoc]
      rfl

end

theorem Text.sameLowercase_trans {s t u : String} (hst : sameLowercase s t = true)
    (htu : sameLowercase t u = true) : sameLowercase s u = true := by
  rw [sameLowercase, beq_iff_eq] at *
  exact hst.trans htu

theorem DistinguishedName.same_trans (a b c : DistinguishedName) (hab : a.same b = true)
    (hbc : b.same c = true) : a.same c = true := Text.sameLowercase_trans hab hbc

theorem Account.same_trans (a b c : Account) (hab : a.same b = true) (hbc : b.same c = true) :
    a.same c = true := Text.sameLowercase_trans hab hbc

theorem User.addGroup_eq (user : User) (group : DistinguishedName) : user.addGroup group =
    { user with groups := addNew DistinguishedName.same user.groups group } := by
  rw [addGroup, isMemberOf, addNew]
  split <;> rfl

theorem Group.addMember_eq (group : Group) (account : Account) : group.addMember account =
    { group with members := addNew Account.same group.members account } := by
  rw [addMember, hasMember, addNew]
  split <;> rfl

theorem User.foldl_addGroup (list : List DistinguishedName) (user : User) :
    list.foldl User.addGroup user =
      { user with groups := list.foldl (addNew DistinguishedName.same) user.groups } := by
  induction list generalizing user with
  | nil => rfl
  | cons group rest ih => rw [List.foldl_cons, ih, List.foldl_cons, addGroup_eq]

theorem Group.foldl_addMember (list : List Account) (group : Group) :
    list.foldl Group.addMember group =
      { group with members := list.foldl (addNew Account.same) group.members } := by
  induction list generalizing group with
  | nil => rfl
  | cons member rest ih => rw [List.foldl_cons, ih, List.foldl_cons, addMember_eq]

/-- Every text that is not empty is read. -/
theorem Dn.mapM_map_readComponents {α : Type} (read : List Component → α) (values : List String) :
    (values.filter (· ≠ "")).mapM (fun s => (readComponents s).map read) =
      .ok (values.filterMap fun s => ((readComponents s).map read).toOption) := by
  induction values with
  | nil => rfl
  | cons s rest ih =>
    by_cases hs : s = ""
    · subst hs
      exact ih
    · have hread : (readComponents s).map read =
          .ok (read ((tokens s.toList).filterMap componentOfToken?)) := by
        rw [readComponents, if_neg hs]
        rfl
      rw [List.filter_cons_of_pos (by simpa using hs), List.mapM_cons, ih,
        List.filterMap_cons_some (by rw [hread]; rfl), hread]
      rfl

namespace EntryAttributes

/-- No two attributes have names that differ in the case of ASCII letters only. -/
def NamesApart (attributes : EntryAttributes) : Prop :=
  attributes.Pairwise fun a b => Text.eqIgnoreAsciiCase a.1 b.1 = false

instance (attributes : EntryAttributes) : Decidable attributes.NamesApart :=
  inferInstanceAs (Decidable (attributes.Pairwise _))

/-- The values of an attribute, whatever the ASCII case of its name; none if it is not there. -/
inductive Holds (attributes : EntryAttributes) (name : String) : List String → Prop
  | present (key : String) (values : List String) (hmem : (key, values) ∈ attributes)
    (hkey : Text.eqIgnoreAsciiCase key name = true) : Holds attributes name values
  | absent (h : ∀ a ∈ attributes, Text.eqIgnoreAsciiCase a.1 name = false) :
    Holds attributes name []

/-- The name of an attribute itself in lower case, or that with a range after a semicolon. -/
def IsPart (name part : String) : Prop :=
  Text.lowercase part = Text.lowercase name ∨
    ∃ range, Text.lowercase part = Text.lowercase name ++ ";" ++ range

theorem isRangeOf_eq_true_iff {name part : String} :
    isRangeOf name part = true ↔ IsPart name part := by
  rw [isRangeOf, Bool.or_eq_true, beq_iff_eq, List.isPrefixOf_iff_prefix, IsPart]
  refine or_congr Iff.rfl ⟨?_, ?_⟩
  · rintro ⟨range, hrange⟩
    refine ⟨String.ofList range, ?_⟩
    rw [← String.toList_inj, String.toList_append, String.toList_ofList, hrange]
  · rintro ⟨range, hrange⟩
    rw [hrange, String.toList_append (t := range)]
    exact List.prefix_append _ _

/-- The attribute and its parts, in ascending order of their names. -/
def parts (attributes : EntryAttributes) (name : String) : EntryAttributes :=
  (attributes.filter fun a => isRangeOf name a.1).mergeSort fun a b => decide (a.1 ≤ b.1)

theorem rangedValues_eq (attributes : EntryAttributes) (name : String) :
    attributes.rangedValues name = (attributes.parts name).flatMap (·.2) := rfl

theorem mem_parts_iff {attributes : EntryAttributes} {name : String}
    {a : String × List String} :
    a ∈ attributes.parts name ↔ a ∈ attributes ∧ IsPart name a.1 := by
  rw [parts, List.mem_mergeSort, List.mem_filter, isRangeOf_eq_true_iff]

section
variable {attributes other : EntryAttributes} (h : attributes.NamesApart)
include h

theorem NamesApart.perm (hperm : attributes.Perm other) : other.NamesApart := by
  refine (hperm.pairwise_iff ?_).mp h
  intro a b hab
  rwa [Text.eqIgnoreAsciiCase_comm]

/-- At most one attribute has a given name. -/
theorem NamesApart.filter_eq (name : String) :
    (attributes.filter fun a => Text.eqIgnoreAsciiCase a.1 name) = [] ∨
      ∃ a, (attributes.filter fun a => Text.eqIgnoreAsciiCase a.1 name) = [a] := by
  have hapart := List.Pairwise.filter (fun a => Text.eqIgnoreAsciiCase a.1 name) h
  have hnamed : ∀ a ∈ attributes.filter fun a => Text.eqIgnoreAsciiCase a.1 name,
      Text.eqIgnoreAsciiCase a.1 name = true := fun a ha => (List.mem_filter.mp ha).2
  generalize attributes.filter (fun a => Text.eqIgnoreAsciiCase a.1 name) = found at hapart hnamed
  match found with
  | [] => exact .inl rfl
  | [a] => exact .inr ⟨a, rfl⟩
  | a :: b :: rest =>
    have hab : Text.eqIgnoreAsciiCase a.1 b.1 = false :=
      (List.pairwise_cons.mp hapart).1 b List.mem_cons_self
    have ha := hnamed a List.mem_cons_self
    have hb := hnamed b (List.mem_cons_of_mem _ List.mem_cons_self)
    rw [Text.eqIgnoreAsciiCase_eq_true_iff] at ha hb
    rw [Text.eqIgnoreAsciiCase_eq_true_iff.mpr (ha.trans hb.symm)] at hab
    contradiction

theorem NamesApart.values_perm (hperm : attributes.Perm other) (name : String) :
    other.values name = attributes.values name := by
  have hfound := hperm.filter fun a => Text.eqIgnoreAsciiCase a.1 name
  rw [values, values]
  rcases h.filter_eq name with hnone | ⟨a, hone⟩
  · rw [hnone] at hfound ⊢
    rw [hfound.nil_eq]
  · rw [hone] at hfound ⊢
    rw [List.perm_singleton.mp hfound.symm]

theorem NamesApart.holds_values (name : String) :
    attributes.Holds name (attributes.values name) := by
  rw [values]
  rcases h.filter_eq name with hnone | ⟨⟨key, values⟩, hone⟩
  · rw [hnone]
    exact .absent fun a ha => by simpa using List.filter_eq_nil_iff.mp hnone a ha
  · have hmem : (key, values) ∈ attributes.filter fun a => Text.eqIgnoreAsciiCase a.1 name := by
      rw [hone]
      exact List.mem_singleton_self _
    rw [hone, List.flatMap_singleton]
    exact .present key values (List.mem_filter.mp hmem).1 (List.mem_filter.mp hmem).2

/-- Names that are apart are put into one order only. -/
theorem NamesApart.pairwise_parts (name : String) :
    (attributes.parts name).Pairwise fun a b => a.1 < b.1 := by
  have hsorted : (attributes.parts name).Pairwise fun a b => a.1 ≤ b.1 := by
    have hpairs : (attributes.parts name).Pairwise fun a b => decide (a.1 ≤ b.1) = true :=
      List.pairwise_mergeSort
        (fun a b c hab hbc => by
          rw [decide_eq_true_eq] at *
          exact String.le_trans hab hbc)
        (fun a b => by
          rw [Bool.or_eq_true, decide_eq_true_eq, decide_eq_true_eq]
          exact String.le_total a.1 b.1) _
    exact hpairs.imp fun hab => of_decide_eq_true hab
  have hapart : (attributes.parts name).NamesApart :=
    NamesApart.perm (List.Pairwise.filter _ h) (List.mergeSort_perm _ _).symm
  refine (hsorted.and hapart).imp ?_
  rintro a b ⟨hle, hne⟩
  refine Std.lt_of_le_of_ne hle ?_
  intro heq
  rw [heq, Text.eqIgnoreAsciiCase_refl] at hne
  contradiction

theorem NamesApart.rangedValues_perm (hperm : attributes.Perm other) (name : String) :
    other.rangedValues name = attributes.rangedValues name := by
  have hparts : (other.parts name).Perm (attributes.parts name) :=
    (List.mergeSort_perm _ _).trans
      ((hperm.symm.filter _).trans (List.mergeSort_perm _ _).symm)
  rw [rangedValues_eq, rangedValues_eq,
    hparts.eq_of_pairwise (fun a b _ _ hab hba => absurd hba (String.lt_asymm hab))
      ((h.perm hperm).pairwise_parts name) (h.pairwise_parts name)]

end

end EntryAttributes

namespace AttributeNames

/-- The groups that the values of the membership attribute name: each value that is not empty, in
order, but none that is the same as an earlier one. -/
def GroupsNamed (names : AttributeNames) (attributes : EntryAttributes)
    (groups : List DistinguishedName) : Prop :=
  ∃ values read, attributes.Holds names.memberOf values ∧
    (values.filter (· ≠ "")).mapM names.parseGroup = .ok read ∧
    groups = firsts DistinguishedName.same [] (read.map Group.name)

/-- The members that the values of the member attribute and of its parts name, the parts in
ascending order: each value that is not empty, but none that is the same as an earlier one. -/
def MembersNamed (names : AttributeNames) (attributes : EntryAttributes)
    (members : List Account) : Prop :=
  ∃ (parts : EntryAttributes) (read : List User), parts.Pairwise (fun a b => a.1 < b.1) ∧
    (∀ a, a ∈ parts ↔ a ∈ attributes ∧ EntryAttributes.IsPart names.member a.1) ∧
    ((parts.flatMap (·.2)).filter (· ≠ "")).mapM names.parseUser = .ok read ∧
    members = firsts Account.same [] (read.map User.account)

variable (names : AttributeNames) (entryDn : String) {attributes other : EntryAttributes}

theorem account_userOfEntry (attributes : EntryAttributes) :
    (names.userOfEntry entryDn attributes).account = names.accountOfEntry entryDn attributes := by
  rw [userOfEntry, User.foldl_addGroup]

theorem mapM_parseGroup (values : List String) :
    (values.filter (· ≠ "")).mapM names.parseGroup =
      .ok (values.filterMap fun s => (names.parseGroup s).toOption) := by
  rw [funext names.parseGroup_eq]
  exact Dn.mapM_map_readComponents _ values

theorem mapM_parseUser (values : List String) :
    (values.filter (· ≠ "")).mapM names.parseUser =
      .ok (values.filterMap fun s => (names.parseUser s).toOption) := by
  rw [funext names.parseUser_eq]
  exact Dn.mapM_map_readComponents _ values

theorem groupsNamed_userOfEntry (h : attributes.NamesApart) :
    names.GroupsNamed attributes (names.userOfEntry entryDn attributes).groups := by
  refine ⟨_, _, h.holds_values names.memberOf, names.mapM_parseGroup _, ?_⟩
  have hname : ∀ s, (names.parseDn s).toOption =
      ((names.parseGroup s).toOption).map Group.name := by
    intro s
    rw [parseGroup]
    cases names.parseDn s <;> rfl
  rw [userOfEntry, User.foldl_addGroup, List.map_filterMap, funext hname]
  exact foldl_addNew DistinguishedName.same_trans (fun _ => rfl) _

theorem membersNamed_groupOfEntry (h : attributes.NamesApart) :
    names.MembersNamed attributes (names.groupOfEntry entryDn attributes).members := by
  refine ⟨attributes.parts names.member, _, h.pairwise_parts names.member,
    fun _ => EntryAttributes.mem_parts_iff, names.mapM_parseUser _, ?_⟩
  have haccount : ∀ s, (names.parseAccount s).toOption =
      ((names.parseUser s).toOption).map User.account := by
    intro s
    rw [parseUser]
    cases names.parseAccount s <;> rfl
  rw [groupOfEntry, Group.foldl_addMember, List.map_filterMap, funext haccount]
  exact foldl_addNew Account.same_trans (fun _ => rfl) _

/-- Entries do not depend on the order of their attributes, and refer to what the values of the
attributes name: users to groups by the membership attribute, groups to members by the member
attribute and its parts, and neither to anything else. -/
theorem references_of_namesApart (h : attributes.NamesApart) :
    (∀ other, attributes.Perm other →
      names.userOfEntry entryDn other = names.userOfEntry entryDn attributes ∧
      names.groupOfEntry entryDn other = names.groupOfEntry entryDn attributes) ∧
    names.GroupsNamed attributes (names.userOfEntry entryDn attributes).groups ∧
    names.MembersNamed attributes (names.groupOfEntry entryDn attributes).members := by
  refine ⟨fun other hperm => ?_, names.groupsNamed_userOfEntry entryDn h,
    names.membersNamed_groupOfEntry entryDn h⟩
  simp only [userOfEntry, groupOfEntry, accountOfEntry, EntryAttributes.first?,
    h.values_perm hperm, h.rangedValues_perm hperm, and_self]

/-- Two parts of a member attribute, an empty value and a member that is named twice. -/
theorem references_of_namesApart_ranges :
    let names : AttributeNames := {}
    let attributes : EntryAttributes := [("member;range=1-2", ["cn=b", "CN=A"]),
      ("MEMBER", ["cn=a", ""]), ("memberOf", ["cn=c"])]
    attributes.NamesApart ∧
      names.groupOfEntry "cn=staff" attributes.reverse = names.groupOfEntry "cn=staff" attributes ∧
      names.MembersNamed attributes (names.groupOfEntry "cn=staff" attributes).members := by
  intro names attributes
  have hapart : attributes.NamesApart := by decide
  obtain ⟨horder, -, hmembers⟩ := references_of_namesApart names "cn=staff" hapart
  exact ⟨hapart, (horder _ (List.reverse_perm _).symm).2, hmembers⟩

example : ((userOfEntry {} "" [("MEMBEROF", ["cn=b", "", "CN=B", "cn=a"]),
    ("member", ["cn=c"])]).groups.map fun g => g.commonName) = [some "b", some "a"] := by
  decide +kernel

end AttributeNames

end DirectoryAuth
