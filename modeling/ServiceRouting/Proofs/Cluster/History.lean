import ServiceRouting.Proofs.Cluster.Views
import ServiceRouting.Proofs.Histories
import ServiceRouting.Proofs.Text.ByteOrder

/-!
# The member table over time

What a history of joins, departures and changes of state makes of the member table, and what the
views of the cluster then show. Read `Listed` first: it says of a history which node stands in the
table under its identity, without running the history. `get?_after_iff` says that the table is so,
and `views_agree` that every view is what its layers keep of it.
-/

namespace ServiceRouting

namespace Cluster

/-- A change of the member table. -/
inductive Change where
  | join (n : Node)
  | leave (id : NodeId)
  | setState (id : NodeId) (state : NodeState)

namespace Change

/-- What a change makes of the cluster. -/
def apply (c : Cluster) : Change → Cluster
  | join n => c.join n
  | leave id => (c.leave id).1
  | setState id state => (c.setState id state).1

/-- Whether the node that is listed under an identity stays the one that joined: the local node is
never removed. -/
def Keeps (localId id : NodeId) : Change → Prop
  | join n => n.id ≠ id
  | leave left => left ≠ id ∨ id = localId
  | setState .. => True

/-- The state that a change gives to the node with this identity. -/
def state? (id : NodeId) : Change → Option NodeState
  | setState other state => if other = id then some state else none
  | _ => none

end Change

/-- The cluster of a process on this node after these changes. -/
def after (localNode : Node) (changes : List Change) : Cluster :=
  changes.foldl Change.apply (ofNode localNode)

/-- A node joined last under its identity and was not removed: the local node is there from the
start. -/
structure Joined (localNode : Node) (changes : List Change) (n : Node) (since : List Change) :
    Prop where
  joined : (n = localNode ∧ since = changes) ∨ ∃ before, changes = before ++ .join n :: since
  kept : ∀ change ∈ since, change.Keeps localNode.id n.id

/-- The node with the state that was set last. -/
def withLastState (n : Node) (since : List Change) : Node :=
  { n with state := ((since.filterMap (·.state? n.id)).getLast?).getD n.state }

/-- A node is in the table: as it joined last, in the state set last since then. -/
def Listed (localNode : Node) (changes : List Change) (m : Node) : Prop :=
  ∃ n since, Joined localNode changes n since ∧ m = withLastState n since

variable {localNode n m : Node} {changes since : List Change} {change : Change} {id : NodeId}

/-- A history that goes on by one change. -/
theorem after_concat (changes : List Change) (change : Change) :
    after localNode (changes ++ [change]) = change.apply (after localNode changes) :=
  List.foldl_append ..

/-- A change leaves the local node alone. -/
theorem apply_localNode (c : Cluster) : (change.apply c).localNode = c.localNode := by
  cases change with
  | join n => rfl
  | leave id =>
      show (c.leave id).1.localNode = c.localNode
      unfold leave
      split <;> rfl
  | setState id state =>
      show (c.setState id state).1.localNode = c.localNode
      unfold setState
      split <;> rfl

/-- The local node stays the one that the cluster was made with. -/
theorem after_localNode (changes : List Change) :
    (after localNode changes).localNode = localNode := by
  induction changes using List.reverseRecOn with
  | nil => rfl
  | append_singleton changes change ih => rw [after_concat, apply_localNode, ih]

/-- One change later, a node joined last if it joined just now, or if it had before and the change
keeps it. -/
theorem joined_concat : Joined localNode (changes ++ [change]) n since ↔
    (change = .join n ∧ since = []) ∨
      ∃ earlier, since = earlier ++ [change] ∧ Joined localNode changes n earlier ∧
        change.Keeps localNode.id n.id := by
  constructor
  · rintro ⟨⟨rfl, rfl⟩ | hjoined, hkept⟩
    · exact .inr ⟨changes, rfl, ⟨.inl ⟨rfl, rfl⟩, fun c hc => hkept c (List.mem_append_left _ hc)⟩,
        hkept change (List.mem_append_right _ List.mem_cons_self)⟩
    · rcases keptSince_concat.1 ⟨hjoined, hkept⟩ with
        ⟨rfl, rfl⟩ | ⟨earlier, rfl, ⟨hearlier, hkept⟩, hkeeps⟩
      · exact .inl ⟨rfl, rfl⟩
      · exact .inr ⟨earlier, rfl, ⟨.inr hearlier, hkept⟩, hkeeps⟩
  · rintro (⟨rfl, rfl⟩ | ⟨earlier, rfl, ⟨⟨rfl, rfl⟩ | hjoined, hkept⟩, hkeeps⟩)
    · exact ⟨.inr ⟨changes, rfl⟩, fun _ h => absurd h List.not_mem_nil⟩
    · refine ⟨.inl ⟨rfl, rfl⟩, fun c hc => ?_⟩
      rcases List.mem_append.1 hc with hc | hc
      · exact hkept c hc
      · exact List.mem_singleton.1 hc ▸ hkeeps
    · obtain ⟨hjoined, hkept⟩ :=
        keptSince_concat.2 (.inr ⟨earlier, rfl, ⟨hjoined, hkept⟩, hkeeps⟩)
      exact ⟨.inr hjoined, hkept⟩

/-- The last change decides on the state if it sets one. -/
theorem withLastState_concat (n : Node) (since : List Change) (change : Change) :
    withLastState n (since ++ [change]) =
      { withLastState n since with
        state := (change.state? n.id).getD (withLastState n since).state } := by
  rw [withLastState, List.filterMap_append, List.filterMap_cons, List.filterMap_nil]
  cases change.state? n.id with
  | none => rw [List.append_nil]; rfl
  | some state => rw [List.getLast?_concat]; rfl

/-- What is listed one change later is listed before, or it is just joining. -/
theorem listed_concat : Listed localNode (changes ++ [change]) m ↔
    change = .join m ∨
      ∃ before, Listed localNode changes before ∧ change.Keeps localNode.id before.id ∧
        m = { before with state := (change.state? before.id).getD before.state } := by
  constructor
  · rintro ⟨n, since, hjoined, rfl⟩
    rcases joined_concat.1 hjoined with ⟨rfl, rfl⟩ | ⟨earlier, rfl, hearlier, hkeeps⟩
    · exact .inl rfl
    · exact .inr ⟨_, ⟨n, earlier, hearlier, rfl⟩, hkeeps, withLastState_concat n earlier change⟩
  · rintro (rfl | ⟨before, ⟨n, earlier, hearlier, rfl⟩, hkeeps, rfl⟩)
    · exact ⟨m, [], joined_concat.2 (.inl ⟨rfl, rfl⟩), rfl⟩
    · exact ⟨n, earlier ++ [change], joined_concat.2 (.inr ⟨earlier, rfl, hearlier, hkeeps⟩),
        (withLastState_concat n earlier change).symm⟩

/-- Only the local node is listed at the start. -/
theorem listed_nil : Listed localNode [] m ↔ m = localNode := by
  constructor
  · rintro ⟨n, since, ⟨⟨rfl, rfl⟩ | ⟨before, hbefore⟩, -⟩, rfl⟩
    · rfl
    · cases before <;> cases hbefore
  · rintro rfl
    exact ⟨m, [], ⟨.inl ⟨rfl, rfl⟩, fun _ h => absurd h List.not_mem_nil⟩, rfl⟩

/-- A node that joins is found, and the others as before. -/
theorem get?_join (c : Cluster) (n : Node) (id : NodeId) :
    (c.join n).known.get? id = if id = n.id then some n else c.known.get? id :=
  c.known.get?_insert n.id id n

/-- A node that leaves is not found, unless it is the local one, and the others as before. -/
theorem get?_leave (c : Cluster) (left id : NodeId) :
    (c.leave left).1.known.get? id =
      if left ≠ id ∨ id = c.localNode.id then c.known.get? id else none := by
  unfold leave
  split
  next hlocal =>
    rw [if_pos]
    exact (Decidable.em (left = id)).elim (fun heq => .inr (heq ▸ hlocal)) .inl
  next hother =>
    refine (c.known.get?_erase left id).trans ?_
    by_cases heq : id = left
    · subst heq
      rw [if_pos rfl, if_neg (not_or.2 ⟨fun hne => hne rfl, hother⟩)]
    · rw [if_neg heq, if_pos (.inl (Ne.symm heq))]

/-- A node whose state is set is found with it, and the others as before. -/
theorem get?_setState (c : Cluster) (other id : NodeId) (state : NodeState) :
    (c.setState other state).1.known.get? id =
      if other = id then (c.known.get? id).map ({ · with state }) else c.known.get? id := by
  unfold setState
  cases hother : c.known.get? other with
  | none =>
      by_cases heq : other = id
      · rw [if_pos heq, ← heq, hother]
        rfl
      · rw [if_neg heq]
  | some n =>
      refine (c.get?_join { n with state } id).trans ?_
      have hid : n.id = other := c.keyed other n hother
      by_cases heq : other = id
      · rw [if_pos (hid.trans heq).symm, if_pos heq, ← heq, hother]
        rfl
      · rw [if_neg fun h => heq (hid.symm.trans h.symm), if_neg heq]

/-- After one change a node is found under its identity if it just joined, or if the change keeps
the node found before and gives it this state. -/
theorem get?_apply_iff (c : Cluster) : (change.apply c).known.get? m.id = some m ↔
    change = .join m ∨
      ∃ before, c.known.get? before.id = some before ∧ change.Keeps c.localNode.id before.id ∧
        m = { before with state := (change.state? before.id).getD before.state } := by
  cases change with
  | join n =>
      rw [Change.apply, get?_join]
      constructor
      · intro hm
        split at hm
        next => exact .inl (congrArg _ (Option.some.inj hm))
        next hne => exact .inr ⟨m, hm, fun h => hne h.symm, rfl⟩
      · rintro (heq | ⟨before, hbefore, hne, rfl⟩)
        · obtain rfl := Change.join.inj heq
          exact if_pos rfl
        · exact (if_neg fun h => hne h.symm).trans hbefore
  | leave left =>
      rw [Change.apply, get?_leave, Option.ite_none_right_eq_some]
      constructor
      · exact fun ⟨hkeeps, hm⟩ => .inr ⟨m, hm, hkeeps, rfl⟩
      · rintro (heq | ⟨before, hbefore, hkeeps, rfl⟩)
        · cases heq
        · exact ⟨hkeeps, hbefore⟩
  | setState id state =>
      rw [Change.apply, get?_setState]
      constructor
      · intro hm
        split at hm
        next heq =>
          obtain ⟨before, hbefore, rfl⟩ := Option.map_eq_some_iff.1 hm
          exact .inr ⟨before, hbefore, trivial, by rw [Change.state?, if_pos heq]; rfl⟩
        next hne => exact .inr ⟨m, hm, trivial, by rw [Change.state?, if_neg hne]; rfl⟩
      · rintro (heq | ⟨before, hbefore, -, rfl⟩)
        · cases heq
        · rw [Change.state?]
          split
          next => exact (congrArg _ hbefore).trans rfl
          next => exact hbefore

/-- The table holds exactly the listed nodes, each under its identity. -/
theorem get?_after_iff :
    (after localNode changes).known.get? m.id = some m ↔ Listed localNode changes m := by
  induction changes using List.reverseRecOn generalizing m with
  | nil =>
      rw [listed_nil]
      refine (iff_of_eq (congrArg (· = some m) (Table.get?_insert ..))).trans ?_
      rw [Table.get?_empty, Option.ite_none_right_eq_some, Option.some.injEq]
      exact ⟨fun ⟨_, h⟩ => h.symm, fun h => ⟨congrArg Node.id h, h.symm⟩⟩
  | append_singleton changes change ih =>
      rw [after_concat, get?_apply_iff, listed_concat, after_localNode]
      simp only [ih]

/-- The local node is always in the table. -/
theorem contains_localNode (changes : List Change) :
    (after localNode changes).known.contains localNode.id = true := by
  induction changes using List.reverseRecOn with
  | nil => exact congrArg Option.isSome (Table.get?_insert_self ..)
  | append_singleton changes change ih =>
      rw [Table.contains] at ih ⊢
      rw [after_concat]
      cases change with
      | join n =>
          rw [Change.apply, get?_join]
          split
          · rfl
          · exact ih
      | leave left =>
          rw [Change.apply, get?_leave, after_localNode, if_pos (.inr rfl)]
          exact ih
      | setState id state =>
          rw [Change.apply, get?_setState]
          split
          · rw [Option.isSome_map]
            exact ih
          · exact ih

/-- A table that has an entry is not empty. -/
theorem size_pos {c : Cluster} (h : c.known.contains id = true) : 1 ≤ c.size := by
  obtain ⟨n, hn⟩ := Option.isSome_iff_exists.1 h
  exact List.length_pos_of_mem ((c.known.mem_entries_iff).2 hn)

end Cluster

namespace View

variable {c : Cluster} {n : Node} {id : NodeId}

/-- A view keeps the members that pass the tests of all layers. -/
theorem mem_members_iff (v : View) :
    n ∈ v.members c ↔ n ∈ c.members ∧ ∀ layer ∈ v, passes layer n = true := by
  induction v with
  | nil => exact (and_iff_left fun _ h => absurd h List.not_mem_nil).symm
  | cons layer below ih =>
      rw [List.forall_mem_cons, and_left_comm, ← ih]
      cases layer with
      | none => exact (and_iff_right rfl).symm
      | some test => exact List.mem_filter.trans and_comm

/-- A view is of the whole cluster if no layer has a test. -/
theorem isUnrestricted_iff (v : View) : v.isUnrestricted = true ↔ ∀ layer ∈ v, layer = none := by
  simp only [isUnrestricted, List.all_eq_true, Option.isNone_iff_eq_none]

/-- A view of the whole cluster shows what the cluster shows. -/
theorem of_isUnrestricted {v : View} (h : v.isUnrestricted = true) :
    v.members c = c.members ∧ ∀ id, v.node? c id = c.node? id := by
  rw [isUnrestricted_iff] at h
  induction v with
  | nil => exact ⟨rfl, fun _ => rfl⟩
  | cons layer below ih =>
      obtain ⟨rfl, hbelow⟩ := List.forall_mem_cons.1 h
      obtain ⟨hmembers, hnode⟩ := ih hbelow
      refine ⟨hmembers, fun id => ?_⟩
      rw [node?, hnode]
      cases c.node? id <;> rfl

end View

namespace Cluster

/-- What a projection shows of a cluster with this history. -/
structure Agreement (localNode : Node) (changes : List Change) (p : Projection) : Prop where
  /-- The local node is in the table. -/
  listed : (after localNode changes).known.contains localNode.id = true
  /-- The local node is not removed. -/
  refused : (after localNode changes).leave localNode.id = (after localNode changes, none)
  /-- The table is never empty. -/
  size : 1 ≤ (after localNode changes).size
  /-- The members come by strictly increasing identity, in the order of bytes. -/
  increasing : (p.members (after localNode changes)).Pairwise fun a b =>
    Text.bytes a.id < Text.bytes b.id
  /-- The members are the nodes of the table that are alive and pass every test. -/
  members : ∀ n, n ∈ p.members (after localNode changes) ↔
    Listed localNode changes n ∧ n.state = .alive ∧
      ∀ test, some test ∈ p.view → test n = true
  /-- A lookup gives the member with the identity. -/
  node : ∀ id n, p.node? (after localNode changes) id = some n ↔
    n ∈ p.members (after localNode changes) ∧ n.id = id
  /-- A projection is of the whole cluster if no layer has a test. -/
  unrestricted : p.isUnrestricted = true ↔ ∀ test, some test ∉ p.view
  /-- A projection of the whole cluster shows what the cluster shows. -/
  whole : p.isUnrestricted = true →
    p.members (after localNode changes) = (after localNode changes).members ∧
    ∀ id, p.node? (after localNode changes) id = (after localNode changes).node? id
  /-- The local node is in the projection if its identity is that of a member. -/
  localMember : p.containsLocal (after localNode changes) = true ↔
    ∃ n ∈ p.members (after localNode changes), n.id = localNode.id

/-- Every view agrees with the member table, whatever the history of the table and whatever the
layers of the view. -/
theorem views_agree (localNode : Node) (changes : List Change) (p : Projection) :
    Agreement localNode changes p where
  listed := contains_localNode changes
  refused := by rw [leave, after_localNode, if_pos rfl]
  size := size_pos (contains_localNode changes)
  increasing := (p.members_increasing _).imp fun h => Text.bytes_lt h
  members n := by
    rw [Projection.members, View.mem_members_iff, mem_members_iff, get?_after_iff, and_assoc,
      Node.isAlive, decide_eq_true_iff]
    refine and_congr_right fun _ => and_congr_right fun _ => ⟨fun h test => h (some test), ?_⟩
    rintro h (_ | test) hlayer
    · rfl
    · exact h test hlayer
  node _ _ := p.node?_eq_some_iff
  unrestricted := by
    refine (View.isUnrestricted_iff p.view).trans ⟨fun h test htest => ?_, fun h layer hlayer => ?_⟩
    · cases h _ htest
    · cases layer with
      | none => rfl
      | some test => exact absurd hlayer (h test)
  whole h := View.of_isUnrestricted h
  localMember := by
    rw [Projection.containsLocal, List.any_eq_true, after_localNode]
    simp only [decide_eq_true_iff]

end Cluster

end ServiceRouting
