import ArtikSdk.Lib.Run
import ArtikSdk.Network.Status

/-!
# Notifying the watches

Each callback that was registered when the status changed is to be called once, in the order of
registration, whatever callbacks add and remove. The loop follows the links of the live list:
what a callback removes in front of the loop is not called, and where it removes its own node,
the loop goes on from freed memory.
-/

namespace ArtikSdk.Network
open Lib

def Watch.ids (w : Watch) : List Nat := w.root.map Node.id

/-- The ids of the watches; none where nothing is watched. -/
def State.ids (s : State) : List Nat := (s.watch.map Watch.ids).getD []

/-- The ids of the nodes called, in order. -/
def called (calls : List (Node × Bool)) : List Nat := calls.map fun c => c.1.id

/-- The calls made in the first `n` rounds; a loop that faulted has none to show. -/
def callsAfter (env : Nat → List Op) (l : Loop) (n : Nat) : List (Node × Bool) :=
  match after round env l n with
  | .inl l => l.calls
  | .inr (.ok r) => r.2
  | .inr (.error _) => []

/-- What the notification from `s` is to do when callback after callback does what `env` says: it never
faults, and from some round on the calls of the registered nodes are the registered nodes. -/
def EachOnce (env : Nat → List Op) (s : State) : Prop :=
  ∃ l, enter s = .ok l ∧ (∀ n f, after round env l n ≠ .inr (.error f)) ∧
    ∃ n, ∀ m, n ≤ m → (called (callsAfter env l m)).filter (· ∈ s.ids) = s.ids

/-- What a callback does leaves the node that is called and those registered that are still to be called. -/
def Spares (registered : List Nat) (ops : List Op) (l : Loop) : Prop :=
  ∃ s, act ops l.state = .ok s ∧ l.node.id ∈ s.ids ∧ ∀ id ∈ registered, id ∉ called l.calls → id ∈ s.ids

/-- Something is watched, and no callback removes a node in front of its time. -/
def AllSpared (env : Nat → List Op) (s : State) : Prop :=
  ∃ l, enter s = .ok l ∧ ∀ n l', after round env l n = .inl l' → Spares s.ids (env n) l'

/-! ## What a callback can do to the list -/

/-- The ids are distinct, and below the number of nodes so far. -/
structure State.Numbered (s : State) : Prop where
  distinct : s.ids.Nodup
  below : ∀ id ∈ s.ids, id < s.count

/-- `s'` comes from `s`: some of its nodes in their order, then new ones. -/
structure Evolves (s s' : State) : Prop where
  numbered : s'.Numbered
  count : s.count ≤ s'.count
  ids : ∃ old new, s'.ids = old ++ new ∧ old.Sublist s.ids ∧ ∀ id ∈ new, s.count ≤ id

theorem Evolves.refl {s : State} (numbered : s.Numbered) : Evolves s s :=
  ⟨numbered, le_rfl, s.ids, [], (List.append_nil _).symm, List.Sublist.refl _, fun id member => by cases member⟩

theorem Evolves.trans {s s' s'' : State} (first : Evolves s s') (second : Evolves s' s'') : Evolves s s'' := by
  obtain ⟨old, new, ids, kept, fresh⟩ := first.ids
  obtain ⟨old', new', ids', kept', fresh'⟩ := second.ids
  rw [ids] at kept'
  obtain ⟨left, right, split, keptLeft, keptRight⟩ := List.sublist_append_iff.1 kept'
  refine ⟨second.numbered, first.count.trans second.count, left, right ++ new', ?_, keptLeft.trans kept, fun id member => ?_⟩
  · rw [ids', split, List.append_assoc]
  · obtain old | new := List.mem_append.1 member
    · exact fresh id (keptRight.subset old)
    · exact first.count.trans (fresh' id new)

theorem State.Numbered.sublist {s : State} (numbered : s.Numbered) {s' : State} (count : s'.count = s.count)
    (ids : s'.ids.Sublist s.ids) : Evolves s s' where
  numbered := ⟨numbered.distinct.sublist ids, fun id member => count ▸ numbered.below id (ids.subset member)⟩
  count := count ▸ le_rfl
  ids := ⟨s'.ids, [], (List.append_nil _).symm, ids, fun id member => by cases member⟩

/-- A new node is behind all others. -/
theorem add_evolves {s : State} (numbered : s.Numbered) {w : Watch} (ids : w.ids = s.ids) (callback : Nat) (node : Malloc) :
    Evolves s (w.add callback node s.count).1 := by
  unfold Watch.add
  split
  · exact numbered.sublist rfl (ids ▸ List.Sublist.refl _)
  · rename_i a picked
    have longer : State.ids ⟨some { w with root := w.root ++ [⟨s.count, a, callback⟩] }, s.count + 1⟩ = s.ids ++ [s.count] := by
      rw [← ids]
      exact List.map_append
    refine ⟨⟨?_, fun id member => ?_⟩, Nat.le_succ _, s.ids, [s.count], longer, List.Sublist.refl _, fun id member => ?_⟩
    · rw [longer, ← List.concat_eq_append]
      exact numbered.distinct.concat fun member => absurd (numbered.below _ member) (lt_irrefl _)
    · rw [longer] at member
      obtain old | new := List.mem_append.1 member
      · exact (numbered.below id old).trans (Nat.lt_succ_self _)
      · rw [List.mem_singleton.1 new]
        exact Nat.lt_succ_self _
    · rw [List.mem_singleton.1 member]

/-- There is no node in front of the first `artik_list_add`. -/
theorem initialized_ids {init : InitAnswers} {w : Watch} (initialized : initializeWatchOnlineStatus init = .ok (.ok w)) : w.ids = [] := by
  unfold initializeWatchOnlineStatus at initialized
  split at initialized
  · cases initialized
  · split at initialized
    · cases initialized
    · split at initialized
      · cases initialized
      · split at initialized
        · cases initialized
        · cases initialized
          rfl

theorem op_evolves {op : Op} {s s' : State} (numbered : s.Numbered) (acted : op.act s = .ok s') : Evolves s s' := by
  cases op with
  | add callback init node =>
    obtain ⟨r, answered, rfl⟩ := map_ok_iff.1 acted
    unfold osNetworkAddWatchOnlineStatus at answered
    split at answered
    · rename_i w watched
      cases answered
      exact add_evolves numbered (by unfold State.ids; rw [watched]; rfl) callback node
    · rename_i unwatched
      have none : s.ids = [] := by unfold State.ids; rw [unwatched]; rfl
      obtain ⟨inits, initialized, answered⟩ := bind_ok_iff.1 answered
      split at answered
      · cases answered
        exact .refl numbered
      · rename_i w
        cases answered
        refine add_evolves numbered ?_ callback node
        rw [none, initialized_ids initialized]
  | remove handle loop =>
    obtain ⟨r, answered, rfl⟩ := map_ok_iff.1 acted
    unfold osNetworkRemoveWatchOnlineStatus at answered
    split at answered
    · cases answered
      exact .refl numbered
    · rename_i w watched
      have ids : s.ids = w.root.map Node.id := by unfold State.ids; rw [watched]; rfl
      have shorter : ((if handle = 0 then w.root else w.root.eraseP fun n => n.address = handle).map Node.id).Sublist s.ids := by
        rw [ids]
        split
        · exact List.Sublist.refl _
        · exact List.eraseP_sublist.map _
      dsimp only at answered
      by_cases empty : (if handle = 0 then w.root else w.root.eraseP fun n => n.address = handle) = []
      · rw [if_pos empty] at answered
        split at answered
        · cases answered
        · cases answered
          exact numbered.sublist rfl (List.nil_sublist _)
      · rw [if_neg empty] at answered
        cases answered
        exact numbered.sublist rfl shorter

theorem act_evolves {ops : List Op} {s s' : State} (numbered : s.Numbered) (acted : act ops s = .ok s') : Evolves s s' := by
  induction ops generalizing s with
  | nil =>
    cases acted
    exact .refl numbered
  | cons op ops ih =>
    obtain ⟨mid, first, rest⟩ := bind_ok_iff.1 acted
    have step := op_evolves numbered first
    exact step.trans (ih step.numbered rest)

/-! ## A round -/

theorem behind_append {node : Node} {before : List Node} (rest : List Node) (first : ∀ n ∈ before, n.id ≠ node.id) :
    behind node.id (before ++ node :: rest) = some rest := by
  induction before with
  | nil => rw [List.nil_append, behind, if_pos rfl]
  | cons n before ih =>
    rw [List.forall_mem_cons] at first
    rw [List.cons_append, behind, if_neg first.1]
    exact ih first.2

theorem behind_ids {id : Nat} {root : List Node} {before rest : List Nat} (ids : root.map Node.id = before ++ id :: rest)
    (first : id ∉ before) : ∃ nodes, behind id root = some nodes ∧ nodes.map Node.id = rest := by
  obtain ⟨nodes, others, rfl, rfl, split⟩ := List.map_eq_append_iff.1 ids
  obtain ⟨node, rest, rfl, rfl, rfl⟩ := List.map_eq_cons_iff.1 split
  exact ⟨rest, behind_append rest fun n member same => first (List.mem_map.2 ⟨n, member, same⟩), rfl⟩

/-- A node has nodes behind it only if it is in the list. -/
theorem mem_of_behind {id : Nat} {root nodes : List Node} (found : behind id root = some nodes) :
    id ∈ root.map Node.id ∧ ∀ n ∈ nodes, n ∈ root := by
  induction root with
  | nil => cases found
  | cons n root ih =>
    rw [behind] at found
    split at found
    · rename_i same
      cases found
      exact ⟨same ▸ List.mem_cons_self .., fun n member => List.mem_cons_of_mem _ member⟩
    · obtain ⟨member, later⟩ := ih found
      exact ⟨List.mem_cons_of_mem _ member, fun n member => List.mem_cons_of_mem _ (later n member)⟩

/-- A round whose callback and whose step to the next node work: the state it leaves, the calls, and the nodes
that are left. -/
structure Steps (ops : List Op) (l : Loop) (s : State) (calls : List (Node × Bool)) (rest : List Node) : Prop where
  acted : act ops l.state = .ok s
  calls : ∃ status, calls = l.calls ++ [(l.node, status)]
  rest : ∃ w, s.watch = some w ∧ behind l.node.id w.root = some rest

/-- A round faults, or goes on with the next node, or ends. -/
theorem round_cases (ops : List Op) (l : Loop) :
    (∃ f, round ops l = .inr (.error f)) ∨
      (∃ s calls node rest, round ops l = .inl ⟨s, node, calls⟩ ∧ Steps ops l s calls (node :: rest)) ∨
      ∃ s calls, round ops l = .inr (.ok (s, calls)) ∧ Steps ops l s calls [] := by
  unfold round
  split
  · exact .inl ⟨_, rfl⟩
  · rename_i w watched
    split
    · exact .inl ⟨_, rfl⟩
    · rename_i s acted
      dsimp only
      cases left : s.watch with
      | none => exact .inl ⟨_, rfl⟩
      | some w' =>
        rw [Option.map_some, Option.bind_some]
        cases found : behind l.node.id w'.root with
        | none => exact .inl ⟨_, rfl⟩
        | some rest =>
          cases rest with
          | nil => exact .inr (.inr ⟨_, _, rfl, acted, ⟨_, rfl⟩, w', left, found⟩)
          | cons node rest => exact .inr (.inl ⟨_, _, _, rest, rfl, acted, ⟨_, rfl⟩, w', left, found⟩)

theorem ids_of_watch {s : State} {w : Watch} (watched : s.watch = some w) : s.ids = w.root.map Node.id := by
  unfold State.ids
  rw [watched]
  rfl

/-- Where the callback spares its node, the round does not fault. -/
theorem round_steps {ops : List Op} {l : Loop} {s : State} (watched : l.state.watch ≠ none) (acted : act ops l.state = .ok s)
    (spared : l.node.id ∈ s.ids) : ∀ f, round ops l ≠ .inr (.error f) := by
  intro f faulted
  obtain ⟨w, watched⟩ := Option.ne_none_iff_exists'.1 watched
  unfold round at faulted
  rw [watched, acted] at faulted
  dsimp only at faulted
  cases left : s.watch with
  | none =>
    unfold State.ids at spared
    rw [left] at spared
    cases spared
  | some w' =>
    rw [ids_of_watch left] at spared
    obtain ⟨before, rest, split, first⟩ := List.eq_append_cons_of_mem spared
    obtain ⟨nodes, found, -⟩ := behind_ids split first
    rw [left, Option.map_some, Option.bind_some, found] at faulted
    cases nodes <;> cases faulted

/-! ## The walk over the list -/

/-- In front of round `n` the loop has called the first `n` registered nodes, and its node and those behind it
are the others and new ones. -/
structure Walks (registered : List Nat) (bound n : Nat) (l : Loop) : Prop where
  numbered : l.state.Numbered
  later : bound ≤ l.state.count
  list : ∃ before rest new, l.state.ids = before ++ l.node.id :: rest ∧ l.node.id :: rest = registered.drop n ++ new ∧ ∀ id ∈ new, bound ≤ id
  calls : (called l.calls).filter (· ∈ registered) = registered.take n

variable {registered : List Nat} {bound n : Nat} {l : Loop}

theorem Walks.watched (walks : Walks registered bound n l) : l.state.watch ≠ none := by
  intro none
  obtain ⟨before, rest, new, ids, -⟩ := walks.list
  unfold State.ids at ids
  rw [none] at ids
  cases before <;> cases ids

/-- The call of the loop's node is that of the next registered one, or none of theirs. -/
theorem Walks.call (walks : Walks registered bound n l) (below : ∀ id ∈ registered, id < bound) (status : Bool) :
    (called (l.calls ++ [(l.node, status)])).filter (· ∈ registered) = registered.take (n + 1) := by
  obtain ⟨before, rest, new, -, split, fresh⟩ := walks.list
  unfold called at *
  rw [List.map_append, List.filter_append, ← called, walks.calls, List.map_singleton]
  cases left : registered.drop n with
  | nil =>
    rw [left, List.nil_append] at split
    have strange : l.node.id ∉ registered := fun member =>
      absurd (fresh _ (split ▸ List.mem_cons_self ..)) (not_le.2 (below _ member))
    have short : registered.length ≤ n := List.drop_eq_nil_iff.1 left
    rw [List.filter_cons, if_neg (by rw [decide_eq_true_eq]; exact strange), List.filter_nil, List.append_nil, List.take_of_length_le short,
      List.take_of_length_le (by omega)]
  | cons id ids =>
    rw [left, List.cons_append] at split
    obtain ⟨same, -⟩ := List.cons.inj split
    have member : l.node.id ∈ registered := List.mem_of_mem_drop (same ▸ left ▸ List.mem_cons_self .. : l.node.id ∈ registered.drop n)
    have room : n < registered.length := by
      by_contra short
      rw [List.drop_of_length_le (not_lt.1 short)] at left
      cases left
    rw [List.filter_cons, if_pos (decide_eq_true member), List.filter_nil, List.take_succ_eq_append_getElem room]
    rw [List.drop_eq_getElem_cons room] at left
    rw [same, ← (List.cons.inj left).1]

/-- A part of the list that keeps its first node keeps what is left of the rest. -/
theorem sublist_from {id : Nat} {old before rest : List Nat} (kept : old.Sublist (before ++ id :: rest)) (member : id ∈ old)
    (distinct : (before ++ id :: rest).Nodup) :
    ∃ left right, old = left ++ id :: right ∧ left.Sublist before ∧ right.Sublist rest := by
  obtain ⟨left, right, rfl, keptLeft, keptRight⟩ := List.sublist_append_iff.1 kept
  obtain ⟨-, later, apart⟩ := List.nodup_append.1 distinct
  rw [List.nodup_cons] at later
  have inRight : id ∈ right := by
    obtain first | second := List.mem_append.1 member
    · exact absurd rfl (apart id (keptLeft.subset first) id (List.mem_cons_self ..))
    · exact second
  cases keptRight with
  | cons _ kept => exact absurd (kept.subset inRight) later.1
  | cons_cons _ kept => exact ⟨left, _, rfl, keptLeft, kept⟩

/-- A part of a list that has all of its first nodes starts with them. -/
theorem sublist_starts {ids first last : List Nat} (part : ids.Sublist (first ++ last)) (distinct : first.Nodup)
    (all : ∀ id ∈ first, id ∈ ids) (apart : ∀ id ∈ first, id ∉ last) : ∃ more, ids = first ++ more ∧ more.Sublist last := by
  obtain ⟨here, more, rfl, keptHere, keptMore⟩ := List.sublist_append_iff.1 part
  refine ⟨more, ?_, keptMore⟩
  have within : first ⊆ here := by
    intro id member
    obtain present | later := List.mem_append.1 (all id member)
    · exact present
    · exact absurd (keptMore.subset later) (apart id member)
  rw [keptHere.eq_of_length_le (List.subperm_of_subset distinct within).length_le]

/-- The callback of a round that goes on keeps its own node, parts of the list on both sides of it, and
adds nodes at the end. -/
theorem Steps.kept {ops : List Op} {s : State} {calls : List (Node × Bool)} {rest : List Node} (steps : Steps ops l s calls rest)
    (numbered : l.state.Numbered) {before later : List Nat} (ids : l.state.ids = before ++ l.node.id :: later) :
    ∃ left right new, s.ids = left ++ l.node.id :: (right ++ new) ∧ rest.map Node.id = right ++ new ∧
      left.Sublist before ∧ right.Sublist later ∧ ∀ id ∈ new, l.state.count ≤ id := by
  obtain ⟨old, new, ids', kept, fresh⟩ := (act_evolves numbered steps.acted).ids
  obtain ⟨w, watched, found⟩ := steps.rest
  have inOld : l.node.id ∈ old := by
    have here : l.node.id ∈ s.ids := ids_of_watch watched ▸ (mem_of_behind found).1
    rw [ids'] at here
    obtain old | new := List.mem_append.1 here
    · exact old
    · have present : l.node.id ∈ l.state.ids := by
        rw [ids]
        exact List.mem_append_right _ (List.mem_cons_self ..)
      exact absurd (numbered.below _ present) (not_lt.2 (fresh _ new))
  have apart : (before ++ l.node.id :: later).Nodup := ids ▸ numbered.distinct
  obtain ⟨left, right, rfl, keptLeft, keptRight⟩ := sublist_from (ids ▸ kept) inOld apart
  have first : l.node.id ∉ left := fun member =>
    (List.nodup_append.1 apart).2.2 _ (keptLeft.subset member) _ (List.mem_cons_self ..) rfl
  have whole : s.ids = left ++ l.node.id :: (right ++ new) := by
    rw [ids', List.append_assoc, List.cons_append]
  obtain ⟨nodes, found', same⟩ := behind_ids (ids_of_watch watched ▸ whole) first
  rw [found] at found'
  cases found'
  exact ⟨left, right, new, whole, same, keptLeft, keptRight, fresh⟩

/-- Behind a callback that spares the others, the nodes that are left are those still to be called, and
new ones. -/
theorem Walks.left (walks : Walks registered bound n l) (below : ∀ id ∈ registered, id < bound) (distinct : registered.Nodup)
    {ops : List Op} {s : State} {calls : List (Node × Bool)} {rest : List Node} (steps : Steps ops l s calls rest)
    (spared : ∀ id ∈ registered, id ∉ called l.calls → id ∈ s.ids) :
    ∃ before new, s.ids = before ++ l.node.id :: rest.map Node.id ∧ rest.map Node.id = registered.drop (n + 1) ++ new ∧
      ∀ id ∈ new, bound ≤ id := by
  obtain ⟨before, later, new, ids, split, fresh⟩ := walks.list
  obtain ⟨left, right, new', ids', same, keptLeft, keptRight, fresh'⟩ := steps.kept walks.numbered ids
  have count : ∀ id ∈ new', bound ≤ id := fun id member => walks.later.trans (fresh' id member)
  rw [← same] at ids'
  -- the list ends with nodes that came later, in front of which are the registered ones still to be called
  suffices starts : ∃ more, right = registered.drop (n + 1) ++ more ∧ ∀ id ∈ more, bound ≤ id by
    obtain ⟨more, rfl, fresh''⟩ := starts
    refine ⟨left, more ++ new', ids', by rw [same, List.append_assoc], fun id member => ?_⟩
    obtain old | new := List.mem_append.1 member
    · exact fresh'' id old
    · exact count id new
  cases toCall : registered.drop n with
  | nil =>
    rw [toCall, List.nil_append] at split
    have none : registered.drop (n + 1) = [] := by
      rw [List.drop_eq_nil_iff] at toCall ⊢
      omega
    refine ⟨right, by rw [none, List.nil_append], fun id member => ?_⟩
    exact fresh id (split ▸ List.mem_cons_of_mem _ (keptRight.subset member))
  | cons id pending =>
    rw [toCall, List.cons_append] at split
    obtain ⟨-, later'⟩ := List.cons.inj split
    have drop : registered.drop (n + 1) = pending := by rw [← List.tail_drop, toCall, List.tail_cons]
    have pendingApart : pending.Nodup := drop ▸ distinct.sublist (List.drop_sublist _ _)
    have isRegistered : ∀ id' ∈ pending, id' ∈ registered := fun id' member => List.mem_of_mem_drop (drop ▸ member)
    have older : ∀ id' ∈ pending, id' ∉ new := fun id' member member' =>
      absurd (fresh id' member') (not_le.2 (below id' (isRegistered id' member)))
    have all : ∀ id' ∈ pending, id' ∈ right := by
      intro id' member
      have uncalled : id' ∉ called l.calls := by
        intro before'
        have taken : id' ∈ registered.take n := walks.calls ▸ List.mem_filter.2 ⟨before', decide_eq_true (isRegistered id' member)⟩
        have dropped : id' ∈ registered.drop n := toCall ▸ List.mem_cons_of_mem _ member
        exact List.disjoint_take_drop distinct le_rfl taken dropped
      have present := spared id' (isRegistered id' member) uncalled
      have apart : (before ++ l.node.id :: later).Nodup := ids ▸ walks.numbered.distinct
      have there : id' ∈ later := later' ▸ List.mem_append_left _ member
      rw [ids', List.mem_append, List.mem_cons, same, List.mem_append] at present
      obtain gone | rfl | kept | added := present
      · exact absurd rfl ((List.nodup_append.1 apart).2.2 _ (keptLeft.subset gone) _ (List.mem_cons_of_mem _ there))
      · exact absurd there (List.nodup_cons.1 (List.nodup_append.1 apart).2.1).1
      · exact kept
      · exact absurd (count _ added) (not_le.2 (below _ (isRegistered _ member)))
    obtain ⟨more, starts, later⟩ := sublist_starts (later' ▸ keptRight) pendingApart all older
    exact ⟨more, by rw [drop, starts], fun id' member => fresh id' (later.subset member)⟩

/-- A round whose callback spares the others goes on to the next node, or ends with all calls made. -/
theorem Walks.round (walks : Walks registered bound n l) (below : ∀ id ∈ registered, id < bound) (distinct : registered.Nodup)
    {ops : List Op} (spares : Spares registered ops l) :
    (∃ l', Network.round ops l = .inl l' ∧ Walks registered bound (n + 1) l') ∨
      ∃ r, Network.round ops l = .inr (.ok r) ∧ (called r.2).filter (· ∈ registered) = registered ∧ registered.length ≤ n + 1 := by
  obtain ⟨s, acted, here, spared⟩ := spares
  obtain ⟨f, faulted⟩ | ⟨s', calls, node, rest, went, steps⟩ | ⟨s', calls, ended, steps⟩ := round_cases ops l
  · exact absurd faulted (round_steps walks.watched acted here f)
  · have same := acted.symm.trans steps.acted
    cases same
    obtain ⟨before, new, ids, split, fresh⟩ := walks.left below distinct steps spared
    obtain ⟨status, rfl⟩ := steps.calls
    have evolves := act_evolves walks.numbered acted
    refine .inl ⟨_, went, evolves.numbered, walks.later.trans evolves.count, ?_, walks.call below status⟩
    refine ⟨before ++ [l.node.id], rest.map Node.id, new, ?_, split, fresh⟩
    rw [ids, List.append_assoc]
    rfl
  · have same := acted.symm.trans steps.acted
    cases same
    obtain ⟨before, new, ids, split, fresh⟩ := walks.left below distinct steps spared
    obtain ⟨status, rfl⟩ := steps.calls
    have none : registered.drop (n + 1) = [] := (List.append_eq_nil_iff.1 split.symm).1
    have short := List.drop_eq_nil_iff.1 none
    refine .inr ⟨_, ended, ?_, short⟩
    rw [walks.call below status, List.take_of_length_le short]

/-! ## The whole loop -/

variable {env : Nat → List Op} {s : State}

/-- The loop starts at the first node, with none called. -/
theorem enter_walks (numbered : s.Numbered) (entered : enter s = .ok l) : Walks s.ids s.count 0 l := by
  unfold enter at entered
  split at entered
  · cases entered
  · rename_i w watched
    split at entered
    · cases entered
    · rename_i node rest root
      cases entered
      have ids : s.ids = node.id :: rest.map Node.id := by rw [ids_of_watch watched, root, List.map_cons]
      refine ⟨numbered, le_rfl, ⟨[], rest.map Node.id, [], ids, ?_, fun id member => by cases member⟩, ?_⟩
      · rw [List.drop_zero, List.append_nil, ids]
      · rw [List.take_zero]
        rfl

theorem walks_after (numbered : s.Numbered) (entered : enter s = .ok l)
    (spared : ∀ n l', after round env l n = .inl l' → Walks s.ids s.count n l' → Spares s.ids (env n) l') {n : Nat} {l' : Loop}
    (here : after round env l n = .inl l') : Walks s.ids s.count n l' := by
  let I (n : Nat) (l' : Loop) : Prop := after round env l n = .inl l' ∧ Walks s.ids s.count n l'
  have both : ∀ n l', after round env l n = .inl l' → I n l' := by
    refine after_invariant ⟨rfl, enter_walks numbered entered⟩ fun n t t' inv next => ?_
    obtain ⟨here, walks⟩ := inv
    refine ⟨by rw [after_succ here, next], ?_⟩
    obtain ⟨t'', went, walks⟩ | ⟨r, ended, -⟩ := walks.round numbered.below numbered.distinct (spared n t here walks)
    · rw [next] at went
      cases went
      exact walks
    · rw [next] at ended
      cases ended
  exact (both n l' here).2

/-- Where every callback spares the others, each is called once. -/
theorem eachOnce_of_spared (numbered : s.Numbered) (all : AllSpared env s) : EachOnce env s := by
  obtain ⟨l, entered, spared⟩ := all
  have walks {n : Nat} {l' : Loop} (here : after round env l n = .inl l') : Walks s.ids s.count n l' :=
    walks_after numbered entered (fun n l' here _ => spared n l' here) here
  have ends {n : Nat} {r : Except Fault (State × List (Node × Bool))} (returned : after round env l n = .inr r) :
      ∃ p, r = .ok p ∧ (called p.2).filter (· ∈ s.ids) = s.ids := by
    obtain ⟨k, t, here, last⟩ := Returns.last ⟨n, returned⟩
    obtain ⟨t', went, -⟩ | ⟨p, ended, calls, -⟩ := (walks here).round numbered.below numbered.distinct (spared k t here)
    · rw [last] at went
      cases went
    · rw [last] at ended
      cases ended
      exact ⟨p, rfl, calls⟩
  refine ⟨l, entered, fun n f faulted => ?_, s.ids.length, fun m late => ?_⟩
  · obtain ⟨p, same, -⟩ := ends faulted
    cases same
  · unfold callsAfter
    cases now : after round env l m with
    | inl t =>
      dsimp only
      rw [(walks now).calls, List.take_of_length_le late]
    | inr r =>
      obtain ⟨p, rfl, calls⟩ := ends now
      exact calls

/-- A node that was removed without being called is not called any more. -/
structure Gone (id : Nat) (l : Loop) : Prop where
  numbered : l.state.Numbered
  old : id < l.state.count
  removed : id ∉ l.state.ids
  uncalled : id ∉ called l.calls
  node : l.node.id ∈ l.state.ids

theorem gone_step {id : Nat} {ops : List Op} {s' : State} {calls : List (Node × Bool)} {rest : List Node} (numbered : l.state.Numbered)
    (old : id < l.state.count) (uncalled : id ∉ called l.calls) (other : id ≠ l.node.id) (removed : id ∉ s'.ids)
    (steps : Steps ops l s' calls rest) : id ∉ called calls ∧ ∀ node ∈ rest, Gone id ⟨s', node, calls⟩ := by
  have evolves := act_evolves numbered steps.acted
  obtain ⟨status, rfl⟩ := steps.calls
  obtain ⟨w, watched, found⟩ := steps.rest
  have uncalled' : id ∉ called (l.calls ++ [(l.node, status)]) := by
    unfold called at uncalled ⊢
    rw [List.map_append, List.mem_append, not_or]
    exact ⟨uncalled, fun member => other (List.mem_singleton.1 member)⟩
  refine ⟨uncalled', fun node member => ⟨evolves.numbered, lt_of_lt_of_le old evolves.count, removed, uncalled', ?_⟩⟩
  rw [ids_of_watch watched]
  exact List.mem_map.2 ⟨node, (mem_of_behind found).2 node member, rfl⟩

theorem Gone.round {id : Nat} (gone : Gone id l) (ops : List Op) :
    (∀ l', Network.round ops l = .inl l' → Gone id l') ∧ ∀ r, Network.round ops l = .inr (.ok r) → id ∉ called r.2 := by
  have other : id ≠ l.node.id := fun same => gone.removed (same ▸ gone.node)
  have stays {s' : State} (acted : act ops l.state = .ok s') : id ∉ s'.ids := by
    obtain ⟨old, new, ids, kept, fresh⟩ := (act_evolves gone.numbered acted).ids
    rw [ids, List.mem_append, not_or]
    exact ⟨fun member => gone.removed (kept.subset member), fun member => absurd (fresh id member) (not_le.2 gone.old)⟩
  obtain ⟨f, faulted⟩ | ⟨s', calls, node, rest, went, steps⟩ | ⟨s', calls, ended, steps⟩ := round_cases ops l
  · rw [faulted]
    exact ⟨fun l' h => (by cases h), fun r h => by cases h⟩
  · rw [went]
    refine ⟨fun l' h => ?_, fun r h => by cases h⟩
    cases h
    exact (gone_step gone.numbered gone.old gone.uncalled other (stays steps.acted) steps).2 node (List.mem_cons_self ..)
  · rw [ended]
    refine ⟨fun l' h => (by cases h), fun r h => ?_⟩
    cases h
    exact (gone_step gone.numbered gone.old gone.uncalled other (stays steps.acted) steps).1

theorem gone_after {id k : Nat} (first : ∀ t, after round env l k = .inl t → Gone id t)
    (last : ∀ r, after round env l k = .inr (.ok r) → id ∉ called r.2) {m : Nat} (later : k ≤ m) :
    (∀ t, after round env l m = .inl t → Gone id t) ∧ ∀ r, after round env l m = .inr (.ok r) → id ∉ called r.2 := by
  induction m, later using Nat.le_induction with
  | base => exact ⟨first, last⟩
  | succ m _ ih =>
    cases now : after round env l m with
    | inl t =>
      rw [after_succ now]
      exact (ih.1 t now).round (env m)
    | inr r =>
      have stays : after round env l (m + 1) = .inr r := by simp only [after, now]
      rw [stays]
      refine ⟨fun t h => (by cases h), fun r' h => ?_⟩
      cases h
      exact ih.2 r' now

/-- A registered node that was removed in front of its call is never called. -/
theorem not_called {id m k : Nat} (member : id ∈ s.ids) (final : ∀ m, k ≤ m → (called (callsAfter env l m)).filter (· ∈ s.ids) = s.ids)
    (late : k ≤ m) (gone : (∀ t, after round env l m = .inl t → Gone id t) ∧ ∀ r, after round env l m = .inr (.ok r) → id ∉ called r.2) :
    False := by
  have calls := (List.mem_filter.1 (final m late ▸ member)).1
  unfold callsAfter at calls
  split at calls
  · rename_i t now
    exact (gone.1 t now).uncalled calls
  · rename_i r now
    exact gone.2 r now calls
  · cases calls

/-- Where each is called once, every callback spared the others. -/
theorem spared_of_eachOnce (numbered : s.Numbered) (each : EachOnce env s) : AllSpared env s := by
  obtain ⟨l, entered, noFault, k, final⟩ := each
  have spares (n : Nat) (t : Loop) (here : after round env l n = .inl t) (walks : Walks s.ids s.count n t) : Spares s.ids (env n) t := by
    have next := after_succ here
    obtain ⟨f, faulted⟩ | ⟨s', calls, node, rest, went, steps⟩ | ⟨s', calls, ended, steps⟩ := round_cases (env n) t
    · exact absurd (next.trans faulted) (noFault (n + 1) f)
    all_goals
      obtain ⟨w, watched, found⟩ := steps.rest
      have kept : t.node.id ∈ s'.ids := ids_of_watch watched ▸ (mem_of_behind found).1
      refine ⟨s', steps.acted, kept, fun id member uncalled => ?_⟩
      by_contra removed
      have old : id < t.state.count := lt_of_lt_of_le (numbered.below id member) walks.later
      have other : id ≠ t.node.id := fun same => removed (same ▸ kept)
      have gone := gone_step walks.numbered old uncalled other removed steps
      refine not_called member final (le_max_left k (n + 1)) (gone_after (fun t' now => ?_) (fun r now => ?_) (le_max_right k (n + 1)))
    · rw [next, went] at now
      cases now
      exact gone.2 node (List.mem_cons_self ..)
    · rw [next, went] at now
      cases now
    · rw [next, ended] at now
      cases now
    · rw [next, ended] at now
      cases now
      exact gone.1
  exact ⟨l, entered, fun n t here => spares n t here (walks_after numbered entered spares here)⟩

/-- **Notification.** For every list of watches and whatever callback after callback adds and removes: the
notification never faults and calls every node that was registered once, in the order of
registration, if and only if something is watched, and no callback removes its own node, or a
registered one that is still to be called. -/
theorem notification_iff (env : Nat → List Op) (numbered : s.Numbered) : EachOnce env s ↔ AllSpared env s :=
  ⟨spared_of_eachOnce numbered, eachOnce_of_spared numbered⟩

/-- With callbacks that leave the watches alone, the loop does what `passive` says. -/
theorem passive_returns {w : Watch} (numbered : s.Numbered) (watched : s.watch = some w) {node : Node} {rest : List Node}
    (root : w.root = node :: rest) :
    ∃ l, enter s = .ok l ∧ Returns round (fun _ => []) l (.ok (s, w.root.map fun n => (n, w.currentOnlineStatus))) := by
  refine ⟨⟨s, node, []⟩, by unfold enter; rw [watched]; dsimp only; rw [root], ?_⟩
  have apart : (w.root.map Node.id).Nodup := ids_of_watch watched ▸ numbered.distinct
  -- the node is the one behind those that were called
  have step (before : List Node) (node : Node) (rest : List Node) (split : w.root = before ++ node :: rest) :
      round [] ⟨s, node, before.map fun n => (n, w.currentOnlineStatus)⟩ =
        rest.head?.elim (.inr (.ok (s, (before ++ [node]).map fun n => (n, w.currentOnlineStatus))))
          fun next => .inl ⟨s, next, (before ++ [node]).map fun n => (n, w.currentOnlineStatus)⟩ := by
    have found : behind node.id w.root = some rest := by
      rw [split]
      refine behind_append rest fun n member same => ?_
      rw [split, List.map_append, List.map_cons] at apart
      exact (List.nodup_append.1 apart).2.2 _ (List.mem_map.2 ⟨n, member, same⟩) _ (List.mem_cons_self ..) rfl
    have calls : (before.map fun n => (n, w.currentOnlineStatus)) ++ [(node, w.currentOnlineStatus)] =
        (before ++ [node]).map fun n => (n, w.currentOnlineStatus) := by
      rw [List.map_append, List.map_singleton]
    unfold round act
    dsimp only
    rw [watched]
    dsimp only
    rw [Option.map_some, Option.bind_some, found, calls]
    cases rest <;> rfl
  suffices ∀ (rest before : List Node) (node' : Node) (n : Nat), w.root = before ++ node' :: rest →
      after round (fun _ => []) ⟨s, node, []⟩ n = .inl ⟨s, node', before.map fun n => (n, w.currentOnlineStatus)⟩ →
      Returns round (fun _ => []) ⟨s, node, []⟩ (.ok (s, w.root.map fun n => (n, w.currentOnlineStatus))) from
    this rest [] node 0 root rfl
  intro rest
  induction rest with
  | nil =>
    intro before last n split here
    refine ⟨n + 1, ?_⟩
    rw [after_succ here, step before last [] split, split]
    rfl
  | cons next rest ih =>
    intro before node' n split here
    refine ih (before ++ [node']) next (n + 1) (by rw [split, List.append_assoc]; rfl) ?_
    rw [after_succ here, step before node' (next :: rest) split]
    rfl

/-- Two watches. -/
def twoWatches : State := ⟨some ⟨[⟨0, 1, 7⟩, ⟨1, 2, 8⟩], true⟩, 2⟩

theorem twoWatches_numbered : twoWatches.Numbered := ⟨by decide, by decide⟩

theorem notification_passive : EachOnce (fun _ => []) twoWatches ↔ AllSpared (fun _ => []) twoWatches :=
  notification_iff (fun _ => []) twoWatches_numbered

/-- A callback removes its own watch, and the loop follows the link of the freed node. -/
theorem notification_not : ¬ ∀ env s, s.Numbered → EachOnce env s := by
  intro each
  obtain ⟨l, entered, noFault, -⟩ := each (fun _ => [.remove 1 true]) twoWatches twoWatches_numbered
  cases entered
  exact noFault 1 .freed rfl

end ArtikSdk.Network
