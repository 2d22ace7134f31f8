import NexusCore.Lib.Redis

/-!
# What the clients of a Redis server still have to do

A consumer group is handed the entries of its stream one after the other, and a sorted set gives
out the members whose score is low enough. What is left of both is read off the keyspace by
`groupOf` and `dueAt`, and every command says how it changes them.
-/

namespace NexusCore.Lib.Redis

variable {P : Type}

namespace Keyspace

/-- A consumer group; one that is not there has been handed nothing. -/
def groupOf (keys : Keyspace P) (key group : String) : Group :=
  (((keys.streamAt key).getD .empty).groups.lookup group).getD ⟨toLex (0, 0), []⟩

/-- The members of a sorted set up to a score. -/
def dueAt (keys : Keyspace P) (key : String) (max : Int) : List P :=
  (((keys.sortedSetAt key).getD []).filter (·.2 ≤ toScore max)).map (·.1)

/-- The members of a sorted set with their scores. -/
def scoresAt (keys : Keyspace P) (key : String) : List (P × Int) :=
  (keys.sortedSetAt key).getD []

/-- A claim gets as far as a pending id: it is one of those that are looked at, and every one
before it still has its entry. -/
def Reaches (keys : Keyspace P) (key group : String) (id : EntryId) : Prop :=
  ∃ before after, (keys.groupOf key group).pending.take claimScan = before ++ id :: after ∧
    ∀ other ∈ before, other ∈ (keys.contents.entries key).map (·.1)

/-- Every pending id of a group still has its entry. -/
def Whole (keys : Keyspace P) (key group : String) : Prop :=
  ∀ id ∈ (keys.groupOf key group).pending, id ∈ (keys.contents.entries key).map (·.1)

theorem Whole.reaches {keys : Keyspace P} {key group : String} {id : EntryId}
    (whole : keys.Whole key group)
    (among : id ∈ (keys.groupOf key group).pending.take claimScan) : keys.Reaches key group id := by
  obtain ⟨before, after, split⟩ := List.append_of_mem among
  refine ⟨before, after, split, fun other mem => whole other ?_⟩
  exact List.mem_of_mem_take (split ▸ List.mem_append_left _ mem)

/-- No group has been handed an entry that its stream does not have yet. -/
def Behind (keys : Keyspace P) : Prop :=
  ∀ key group, (keys.groupOf key group).lastDelivered ≤ keys.contents.lastId key

end Keyspace

section Views

variable {keys : Keyspace P} {key group : String}

theorem mem_scheduled_of_dueAt {max : Int} {member : P} (due : member ∈ keys.dueAt key max) :
    member ∈ keys.contents.scheduled key := by
  obtain ⟨entry, mem, rfl⟩ := List.mem_map.1 due
  exact List.mem_map_of_mem (List.mem_of_mem_filter mem)

theorem groupOf_of_groupAt {found : Stream P × Group} (h : keys.groupAt key group = .ok found) :
    keys.groupOf key group = found.2 := by
  unfold Keyspace.groupAt at h
  split at h
  · cases h
  · next stream at_key =>
    split at h
    · cases h
    · next members is_group =>
      cases h
      simp [Keyspace.groupOf, at_key, is_group]

theorem groupOf_put_stream {stream : Stream P} (other : String) :
    (keys.put key (.stream stream)).groupOf other group =
      if other = key then (stream.groups.lookup group).getD ⟨toLex (0, 0), []⟩
      else keys.groupOf other group := by
  by_cases same : other = key <;>
    simp [Keyspace.groupOf, Keyspace.streamAt, Keyspace.put, same]

/-- A value of another type takes the place of one of another type or of nothing. -/
theorem dueAt_put {value : Value P} (before : (keys.sortedSetAt key).getD [] = [])
    (after : ∀ members, value ≠ .sortedSet members) (other : String) (max : Int) :
    (keys.put key value).dueAt other max = keys.dueAt other max := by
  by_cases same : other = key
  · subst same
    have still : ((keys.put other value).sortedSetAt other).getD [] = [] := by
      cases value with
      | sortedSet members => exact absurd rfl (after members)
      | _ => simp [Keyspace.sortedSetAt, Keyspace.put]
    rw [Keyspace.dueAt, Keyspace.dueAt, before, still]
  · simp [Keyspace.dueAt, Keyspace.sortedSetAt, Keyspace.put, same]

theorem dueAt_put_stream {stream stream' : Stream P} (found : keys.streamAt key = some stream)
    (other : String) (max : Int) :
    (keys.put key (.stream stream')).dueAt other max = keys.dueAt other max := by
  refine dueAt_put ?_ (fun _ => by simp) other max
  simp only [Keyspace.streamAt] at found
  split at found
  · next missing => simp [Keyspace.sortedSetAt, missing]
  · next is_stream => simp [Keyspace.sortedSetAt, is_stream]
  · cases found

theorem dueAt_put_set {members members' : List P} (found : keys.setAt key = some members)
    (other : String) (max : Int) :
    (keys.put key (.set members')).dueAt other max = keys.dueAt other max := by
  refine dueAt_put ?_ (fun _ => by simp) other max
  simp only [Keyspace.setAt] at found
  split at found
  · next missing => simp [Keyspace.sortedSetAt, missing]
  · next is_set => simp [Keyspace.sortedSetAt, is_set]
  · cases found

theorem groupOf_put_sameGroups {stream stream' : Stream P} (found : keys.streamAt key = some stream)
    (groups : stream'.groups = stream.groups) (other group : String) :
    (keys.put key (.stream stream')).groupOf other group = keys.groupOf other group := by
  rw [groupOf_put_stream]
  split_ifs with same
  · rw [same, groups, Keyspace.groupOf, found]
    rfl
  · rfl

theorem groupOf_put_setGroup {stream : Stream P} {members : Group}
    (found : keys.streamAt key = some stream) (other name : String) :
    (keys.put key (.stream (stream.setGroup group members))).groupOf other name =
      if other = key ∧ name = group then members else keys.groupOf other name := by
  rw [groupOf_put_stream]
  by_cases same : other = key
  · subst same
    by_cases named : name = group
    · subst named
      simp [Stream.setGroup]
    · simp [Stream.setGroup, AList.lookup_insert_ne named, Keyspace.groupOf, found, named]
  · simp [same]

theorem streamAt_of_sortedSetAt {members : List (P × Int)}
    (found : keys.sortedSetAt key = some members) :
    (keys.streamAt key).getD .empty = .empty := by
  simp only [Keyspace.sortedSetAt] at found
  split at found
  · next missing => simp [Keyspace.streamAt, missing]
  · next is_set => simp [Keyspace.streamAt, is_set]
  · cases found

theorem groupOf_putSortedSet {members members' : List (P × Int)}
    (found : keys.sortedSetAt key = some members) (other : String) :
    (keys.putSortedSet key members').groupOf other group = keys.groupOf other group := by
  by_cases same : other = key
  · subst same
    have before := streamAt_of_sortedSetAt found
    have after : ((keys.putSortedSet other members').streamAt other).getD .empty = .empty := by
      cases members' <;> simp [Keyspace.streamAt, Keyspace.putSortedSet]
    rw [Keyspace.groupOf, Keyspace.groupOf, before, after]
  · simp [Keyspace.groupOf, Keyspace.streamAt, Keyspace.putSortedSet, same]

theorem groupOf_put_set {members members' : List P} (found : keys.setAt key = some members)
    (other : String) :
    (keys.put key (.set members')).groupOf other group = keys.groupOf other group := by
  by_cases same : other = key
  · subst same
    have before : (keys.streamAt other).getD .empty = .empty := by
      simp only [Keyspace.setAt] at found
      split at found
      · next missing => simp [Keyspace.streamAt, missing]
      · next is_set => simp [Keyspace.streamAt, is_set]
      · cases found
    rw [Keyspace.groupOf, Keyspace.groupOf, before]
    simp [Keyspace.streamAt, Keyspace.put]
  · simp [Keyspace.groupOf, Keyspace.streamAt, Keyspace.put, same]

end Views

section Effects

variable [DecidableEq P] {moment : Moment} {keys keys' : Keyspace P} {key group : String}

/-- The commands that hand nothing out and settle nothing. -/
def Cmd.IsQuiet : Cmd P → Prop
  | .xreadgroup .. | .xautoclaim .. | .xack .. => False
  | _ => True

theorem groupOf_quiet {c : Cmd P} {reply : c.Reply} (quiet : c.IsQuiet)
    (done : keys.execute moment c = .ok (reply, keys')) (other name : String) :
    keys'.groupOf other name = keys.groupOf other name := by
  cases c with
  | xreadgroup | xautoclaim | xack => exact quiet.elim
  | xgroupCreateMkstream key group =>
    simp only [Keyspace.execute] at done
    split at done
    · cases done
    · next stream found =>
      split_ifs at done with there
      cases done
      rw [groupOf_put_setGroup found]
      split_ifs with same
      · have missing : stream.groups.lookup group = none := AList.lookup_eq_none.2 there
        rw [same.1, same.2, Keyspace.groupOf, found, Option.getD_some, missing]
        rfl
      · rfl
  | xadd key payload =>
    simp only [Keyspace.execute] at done
    split at done
    · cases done
    · next stream found =>
      cases done
      have groups : (stream.append moment.clock payload).groups = stream.groups := rfl
      exact groupOf_put_sameGroups found groups other name
  | xdel key id =>
    simp only [Keyspace.execute] at done
    split at done
    · cases done
      rfl
    · next stream found =>
      cases done
      have at_key : keys.streamAt key = some stream := by simp only [Keyspace.streamAt, found]
      have groups : (stream.delete id).groups = stream.groups := rfl
      exact groupOf_put_sameGroups at_key groups other name
    · cases done
  | xrange =>
    rw [(xrange_spec done).1]
  | zadd =>
    simp only [Keyspace.execute] at done
    split at done
    · cases done
    · next members found =>
      cases done
      exact groupOf_putSortedSet found other
  | zrem =>
    simp only [Keyspace.execute] at done
    split at done
    · cases done
    · next members found =>
      cases done
      exact groupOf_putSortedSet found other
  | zrangebyscore =>
    rw [(zrangebyscore_spec done).1]
  | sadd =>
    simp only [Keyspace.execute] at done
    split at done
    · cases done
    · next members found =>
      cases done
      exact groupOf_put_set found other
  | smembers =>
    rw [(smembers_spec done).1]

/-- The entry that a group is handed is the first one after the last. -/
theorem xreadgroup_groupOf {reply : Option (EntryId × P)}
    (done : keys.execute moment (.xreadgroup key group) = .ok (reply, keys')) :
    match reply with
    | none => keys' = keys ∧ ∀ entry ∈ keys.contents.entries key,
        entry.1 ≤ (keys.groupOf key group).lastDelivered
    | some entry => entry ∈ keys.contents.entries key ∧ ∀ other name,
        keys'.groupOf other name = if other = key ∧ name = group then
          ⟨entry.1, (keys.groupOf key group).pending ++ [entry.1]⟩ else keys.groupOf other name := by
  simp only [Keyspace.execute] at done
  split at done
  · cases done
  · next stream members found =>
    have at_key := groupAt_eq_ok found
    have entries : keys.contents.entries key = stream.entries := by
      simp [Keyspace.contents, at_key]
    rw [groupOf_of_groupAt found, entries]
    split at done
    · next no_new =>
      cases done
      refine ⟨rfl, fun entry mem => ?_⟩
      have old := List.find?_eq_none.1 no_new entry mem
      exact not_lt.1 (by simpa using old)
    · next entry first =>
      cases done
      exact ⟨List.mem_of_find?_eq_some first, fun other name => groupOf_put_setGroup at_key other name⟩

/-- What a group is handed comes after what it was handed before. -/
theorem xreadgroup_later {entry : EntryId × P}
    (done : keys.execute moment (.xreadgroup key group) = .ok (some entry, keys')) :
    (keys.groupOf key group).lastDelivered < entry.1 := by
  simp only [Keyspace.execute] at done
  split at done
  · cases done
  · next stream members found =>
    rw [groupOf_of_groupAt found]
    split at done
    · cases done
    · next first is_first =>
      cases done
      simpa using List.find?_some is_first

/-- A claim hands out an entry that is idle and among those that are looked at, and it misses none
that it gets as far as. -/
theorem xautoclaim_groupOf {reply : Option (EntryId × P)}
    (done : keys.execute moment (.xautoclaim key group) = .ok (reply, keys')) :
    (reply = none → ∀ entry ∈ keys.contents.entries key, keys.Reaches key group entry.1 →
      moment.idle entry.1 = false) ∧
    (∀ entry, reply = some entry →
      entry.1 ∈ (keys.groupOf key group).pending.take claimScan ∧ moment.idle entry.1 = true) ∧
    ∀ other name, (keys'.groupOf other name).lastDelivered = (keys.groupOf other name).lastDelivered ∧
      (¬ (other = key ∧ name = group) →
        (keys'.groupOf other name).pending = (keys.groupOf other name).pending) := by
  simp only [Keyspace.execute] at done
  split at done
  · cases done
  · next stream members found =>
    have at_key := groupAt_eq_ok found
    have entries : keys.contents.entries key = stream.entries := by
      simp [Keyspace.contents, at_key]
    cases done
    rw [groupOf_of_groupAt found, entries]
    refine ⟨?_, fun entry claimed => (claim_some claimed).2, ?_⟩
    · rintro nothing entry stored ⟨before, after, split, kept⟩
      rw [groupOf_of_groupAt found] at split
      rw [entries] at kept
      exact claim_none nothing split kept stored
    · intro other name
      rw [groupOf_put_setGroup at_key]
      split_ifs with same
      · rw [same.1, same.2, groupOf_of_groupAt found]
        exact ⟨rfl, fun other => absurd ⟨rfl, rfl⟩ other⟩
      · exact ⟨rfl, fun _ => rfl⟩

/-- A claim leaves a group as it is in which every pending id still has its entry. -/
theorem xautoclaim_whole {reply : Option (EntryId × P)} (whole : keys.Whole key group)
    (done : keys.execute moment (.xautoclaim key group) = .ok (reply, keys')) (other name : String) :
    keys'.groupOf other name = keys.groupOf other name := by
  simp only [Keyspace.execute] at done
  split at done
  · cases done
  · next stream members found =>
    have at_key := groupAt_eq_ok found
    have entries : keys.contents.entries key = stream.entries := by
      simp [Keyspace.contents, at_key]
    cases done
    rw [groupOf_put_setGroup at_key]
    split_ifs with same
    · have group_eq := groupOf_of_groupAt found
      have kept : ∀ id ∈ members.pending.take claimScan, id ∈ stream.entries.map (·.1) := by
        intro id mem
        rw [← entries]
        exact whole id (by rw [group_eq]; exact List.mem_of_mem_take mem)
      rw [same.1, same.2, group_eq, claim_dropped kept]
      simp
    · rfl

theorem xack_groupOf {id : EntryId} {reply : Nat}
    (done : keys.execute moment (.xack key group id) = .ok (reply, keys')) (other name : String) :
    (keys'.groupOf other name).lastDelivered = (keys.groupOf other name).lastDelivered ∧
      (keys'.groupOf other name).pending = if other = key ∧ name = group then
        (keys.groupOf other name).pending.filter (· ≠ id) else (keys.groupOf other name).pending := by
  simp only [Keyspace.execute] at done
  split at done
  · cases done
  · next failure missing =>
    cases done
    refine ⟨rfl, ?_⟩
    split_ifs with same
    · have nothing : (keys.groupOf other name).pending = [] := by
        rw [same.1, same.2, Keyspace.groupOf]
        simp only [Keyspace.groupAt] at missing
        split at missing
        · next no_stream => simp [no_stream, Stream.empty]
        · next stream at_key =>
          split at missing
          · next no_group => simp [at_key, no_group]
          · cases missing
      rw [nothing]
      rfl
    · rfl
  · next stream members found =>
    cases done
    rw [groupOf_put_setGroup (groupAt_eq_ok found)]
    split_ifs with same
    · rw [same.1, same.2, groupOf_of_groupAt found]
      exact ⟨rfl, rfl⟩
    · exact ⟨rfl, rfl⟩

omit [DecidableEq P] in
theorem lastId_append {contents : Contents P} {id : EntryId} (later : contents.lastId key < id)
    (payload : P) (other : String) :
    contents.lastId other ≤ (contents.append key id payload).lastId other := by
  by_cases same : other = key
  · simpa [Contents.append, same] using later.le
  · simp [Contents.append, same]

theorem lastId_execute {c : Cmd P} {reply : c.Reply}
    (done : keys.execute moment c = .ok (reply, keys')) (other : String) :
    keys.contents.lastId other ≤ keys'.contents.lastId other := by
  have same : keys'.contents = keys.contents →
      keys.contents.lastId other ≤ keys'.contents.lastId other := fun contents => by rw [contents]
  cases c with
  | xgroupCreateMkstream => exact same (xgroupCreateMkstream_spec done)
  | xadd key payload =>
    obtain ⟨later, contents⟩ := xadd_spec done
    rw [contents]
    exact lastId_append later payload other
  | xreadgroup => exact same (xreadgroup_spec done).1
  | xautoclaim => exact same (xautoclaim_spec done).1
  | xack => exact same (xack_spec done)
  | xdel => rw [xdel_spec done, Contents.delete]
  | xrange => rw [(xrange_spec done).1]
  | zadd => rw [zadd_spec done, Contents.schedule]
  | zrem => rw [(zrem_spec done).2, Contents.unschedule]
  | zrangebyscore => rw [(zrangebyscore_spec done).1]
  | sadd => rw [sadd_spec done, Contents.enlist]
  | smembers => rw [(smembers_spec done).1]

theorem Keyspace.Behind.execute {c : Cmd P} {reply : c.Reply} (behind : keys.Behind)
    (done : keys.execute moment c = .ok (reply, keys')) : keys'.Behind := by
  intro other name
  apply le_trans ?_ (lastId_execute done other)
  cases c with
  | xreadgroup key group =>
    have handed := xreadgroup_groupOf done
    cases reply with
    | none =>
      rw [handed.1]
      exact behind other name
    | some entry =>
      rw [handed.2 other name]
      split_ifs with same
      · rw [same.1]
        exact contents_ids_bounded keys key entry handed.1
      · exact behind other name
  | xautoclaim key group =>
    rw [((xautoclaim_groupOf done).2.2 other name).1]
    exact behind other name
  | xack key group id =>
    rw [(xack_groupOf done other name).1]
    exact behind other name
  | _ =>
    rw [groupOf_quiet (by trivial) done other name]
    exact behind other name

/-- The commands that do not change a sorted set. -/
def Cmd.Spares (other : String) : Cmd P → Prop
  | .zadd key _ _ | .zrem key _ => key ≠ other
  | _ => True

theorem dueAt_spared {c : Cmd P} {reply : c.Reply} {other : String} (kept : c.Spares other)
    (done : keys.execute moment c = .ok (reply, keys')) (max : Int) :
    keys'.dueAt other max = keys.dueAt other max := by
  have away {key : String} {members : List (P × Int)} (ne : key ≠ other) :
      (keys.putSortedSet key members).dueAt other max = keys.dueAt other max := by
    simp [Keyspace.dueAt, Keyspace.sortedSetAt, Keyspace.putSortedSet, Ne.symm ne]
  cases c with
  | xgroupCreateMkstream =>
    simp only [Keyspace.execute] at done
    split at done
    · cases done
    · next stream found =>
      split_ifs at done
      cases done
      exact dueAt_put_stream found other max
  | xadd =>
    simp only [Keyspace.execute] at done
    split at done
    · cases done
    · next stream found =>
      cases done
      exact dueAt_put_stream found other max
  | xreadgroup =>
    simp only [Keyspace.execute] at done
    split at done
    · cases done
    · next stream members found =>
      split at done
      · cases done
        rfl
      · cases done
        exact dueAt_put_stream (groupAt_eq_ok found) other max
  | xautoclaim =>
    simp only [Keyspace.execute] at done
    split at done
    · cases done
    · next stream members found =>
      cases done
      exact dueAt_put_stream (groupAt_eq_ok found) other max
  | xack =>
    simp only [Keyspace.execute] at done
    split at done
    · cases done
    · cases done
      rfl
    · next stream members found =>
      cases done
      exact dueAt_put_stream (groupAt_eq_ok found) other max
  | xdel key =>
    simp only [Keyspace.execute] at done
    split at done
    · cases done
      rfl
    · next stream found =>
      cases done
      have at_key : keys.streamAt key = some stream := by simp only [Keyspace.streamAt, found]
      exact dueAt_put_stream at_key other max
    · cases done
  | xrange => rw [(xrange_spec done).1]
  | zadd =>
    simp only [Keyspace.execute] at done
    split at done
    · cases done
    · cases done
      exact away kept
  | zrem =>
    simp only [Keyspace.execute] at done
    split at done
    · cases done
    · cases done
      exact away kept
  | zrangebyscore => rw [(zrangebyscore_spec done).1]
  | sadd =>
    simp only [Keyspace.execute] at done
    split at done
    · cases done
    · next members found =>
      cases done
      exact dueAt_put_set found other max
  | smembers => rw [(smembers_spec done).1]

/-- A member has the score that it was last added with. -/
theorem zadd_scoresAt {member : P} {score kept : Int} {reply : Nat}
    (done : keys.execute moment (.zadd key member score) = .ok (reply, keys'))
    (scored : (member, kept) ∈ keys'.scoresAt key) : kept = toScore score := by
  simp only [Keyspace.execute] at done
  split at done
  · cases done
  · next members found =>
    cases done
    have stored : (keys.putSortedSet key (Keyspace.setScore member (toScore score) members)).scoresAt
        key = Keyspace.setScore member (toScore score) members := by
      unfold Keyspace.scoresAt Keyspace.sortedSetAt Keyspace.putSortedSet
      cases Keyspace.setScore member (toScore score) members <;> simp
    rw [stored] at scored
    unfold Keyspace.setScore at scored
    split_ifs at scored with old
    · obtain ⟨entry, -, same⟩ := List.mem_map.1 scored
      grind
    · obtain held | new := List.mem_append.1 scored
      · exact absurd (List.mem_map_of_mem held) old
      · simpa using new

/-- What is found has a score up to the one that is asked for. -/
theorem zrangebyscore_scoresAt {max : Int} {limit : Nat} {reply : List P} {member : P}
    (done : keys.execute moment (.zrangebyscore key max limit) = .ok (reply, keys'))
    (found : member ∈ reply) : ∃ score ≤ toScore max, (member, score) ∈ keys.scoresAt key := by
  simp only [Keyspace.execute] at done
  split at done
  · cases done
  · next members at_key =>
    cases done
    obtain ⟨entry, mem, rfl⟩ := List.mem_map.1 found
    obtain ⟨held, low⟩ := List.mem_filter.1 (List.mem_mergeSort.1 (List.mem_of_mem_take mem))
    exact ⟨entry.2, of_decide_eq_true low, by simpa [Keyspace.scoresAt, at_key] using held⟩

/-- What is found is due. -/
theorem dueAt_of_zrangebyscore {max : Int} {limit : Nat} {reply : List P} {member : P}
    (done : keys.execute moment (.zrangebyscore key max limit) = .ok (reply, keys'))
    (found : member ∈ reply) : member ∈ keys.dueAt key max := by
  obtain ⟨score, low, scored⟩ := zrangebyscore_scoresAt done found
  exact List.mem_map.2 ⟨(member, score), List.mem_filter.2 ⟨scored, by simpa using low⟩, rfl⟩

/-- What is due is found, though perhaps not all of it at once. -/
theorem zrangebyscore_dueAt {max least : Int} {limit : Nat} {reply : List P}
    (done : keys.execute moment (.zrangebyscore key max limit) = .ok (reply, keys'))
    (later : least ≤ max) (positive : 0 < limit) (due : keys.dueAt key least ≠ []) :
    reply ≠ [] := by
  simp only [Keyspace.execute] at done
  split at done
  · cases done
  · next members found =>
    cases done
    obtain ⟨member, mem⟩ := List.exists_mem_of_ne_nil _ due
    simp only [Keyspace.dueAt, found, Option.getD_some] at mem
    obtain ⟨entry, held, rfl⟩ := List.mem_map.1 mem
    obtain ⟨held, low⟩ := List.mem_filter.1 held
    have scores := toScore_mono later
    have among : entry ∈
        (members.filter (·.2 ≤ toScore max)).mergeSort fun a b => decide (a.2 ≤ b.2) := by
      refine List.mem_mergeSort.2 (List.mem_filter.2 ⟨held, ?_⟩)
      simp only [decide_eq_true_eq] at low ⊢
      omega
    intro empty
    have lengths := congrArg List.length empty
    have some_due := List.length_pos_of_mem among
    simp only [List.length_map, List.length_take, List.length_nil] at lengths
    omega

end Effects

end NexusCore.Lib.Redis
