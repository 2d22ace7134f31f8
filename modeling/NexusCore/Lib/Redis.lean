import Mathlib.Data.List.AList
import Mathlib.Data.Prod.Lex
import Mathlib.Logic.Function.Basic
import Mathlib.Tactic.Common
import NexusCore.Lib.Scores

/-!
# A Redis server

Streams with consumer groups, sorted sets and sets in one keyspace, over an arbitrary type
of payloads. A command takes effect as a whole or fails and changes nothing. Scores are
double-precision numbers.

What a client relies on is said about the `Contents` of a keyspace, which forget the
consumer groups and the scores: every command is one operation on the contents, and the
commands that read leave them as they are.
-/

namespace NexusCore.Lib.Redis

variable {P : Type}

/-- Milliseconds and a sequence number, compared in this order. -/
abbrev EntryId : Type := Nat ×ₗ Nat

/-- The text of an entry id. -/
def EntryId.render (id : EntryId) : String := toString (ofLex id).1 ++ "-" ++ toString (ofLex id).2

structure Group where
  lastDelivered : EntryId
  pending : List EntryId

structure Stream (P : Type) where
  entries : List (EntryId × P)
  lastId : EntryId
  groups : AList fun _ : String => Group
  bounded : ∀ entry ∈ entries, entry.1 ≤ lastId
  unique : (entries.map (·.1)).Nodup

namespace Stream

def empty : Stream P where
  entries := []
  lastId := toLex (0, 0)
  groups := ∅
  bounded := by simp
  unique := by simp

/-- The id given to an entry that is added at a time. -/
def nextId (stream : Stream P) (clock : Nat) : EntryId :=
  if (ofLex stream.lastId).1 < clock then toLex (clock, 0)
  else toLex ((ofLex stream.lastId).1, (ofLex stream.lastId).2 + 1)

theorem lastId_lt_nextId (stream : Stream P) (clock : Nat) :
    stream.lastId < stream.nextId clock := by
  rw [Prod.Lex.lt_iff, nextId]
  split_ifs with later
  · exact .inl later
  · exact .inr ⟨rfl, Nat.lt_succ_self _⟩

theorem nextId_fresh (stream : Stream P) (clock : Nat) :
    stream.nextId clock ∉ stream.entries.map (·.1) := by
  intro old
  obtain ⟨entry, mem, same⟩ := List.mem_map.1 old
  have bound := stream.bounded entry mem
  rw [same] at bound
  exact absurd (stream.lastId_lt_nextId clock) (not_lt.2 bound)

def append (stream : Stream P) (clock : Nat) (payload : P) : Stream P where
  entries := stream.entries ++ [(stream.nextId clock, payload)]
  lastId := stream.nextId clock
  groups := stream.groups
  bounded := by
    intro entry mem
    rcases List.mem_append.1 mem with old | new
    · exact (stream.bounded entry old).trans (stream.lastId_lt_nextId clock).le
    · rw [List.mem_singleton.1 new]
  unique := by
    rw [List.map_append, List.nodup_append]
    refine ⟨stream.unique, by simp, ?_⟩
    rintro id old _ new rfl
    rw [List.map_singleton, List.mem_singleton] at new
    rw [new] at old
    exact stream.nextId_fresh clock old

def delete (stream : Stream P) (id : EntryId) : Stream P where
  entries := stream.entries.filter (·.1 ≠ id)
  lastId := stream.lastId
  groups := stream.groups
  bounded := fun entry mem => stream.bounded entry (List.mem_of_mem_filter mem)
  unique := stream.unique.sublist (List.filter_sublist.map _)

def setGroup (stream : Stream P) (name : String) (group : Group) : Stream P where
  entries := stream.entries
  lastId := stream.lastId
  groups := stream.groups.insert name group
  bounded := stream.bounded
  unique := stream.unique

/-- The first entry that a group has not been given yet. -/
def firstAfter (stream : Stream P) (id : EntryId) : Option (EntryId × P) :=
  stream.entries.find? (id < ·.1)

/-- The entry with an id. -/
def find (stream : Stream P) (id : EntryId) : Option (EntryId × P) :=
  stream.entries.find? (·.1 = id)

end Stream

inductive Value (P : Type) where
  | stream (stream : Stream P)
  | sortedSet (members : List (P × Int))
  | set (members : List P)

abbrev Keyspace (P : Type) : Type := String → Option (Value P)

inductive Failure where
  | busyGroup
  | noGroup
  | wrongType
  | unavailable
  deriving DecidableEq, Repr

/-- The error code of a reply; a lost connection has none. -/
def Failure.code : Failure → Option String
  | .busyGroup => some "BUSYGROUP"
  | .noGroup => some "NOGROUP"
  | .wrongType => some "WRONGTYPE"
  | .unavailable => none

inductive Cmd (P : Type) where
  | xgroupCreateMkstream (key group : String)
  | xadd (key : String) (payload : P)
  | xreadgroup (key group : String)
  | xautoclaim (key group : String)
  | xack (key group : String) (id : EntryId)
  | xdel (key : String) (id : EntryId)
  | xrange (key : String)
  | zadd (key : String) (member : P) (score : Int)
  | zrem (key : String) (member : P)
  | zrangebyscore (key : String) (max : Int) (limit : Nat)
  | sadd (key : String) (member : P)
  | smembers (key : String)

namespace Cmd

def Reply : Cmd P → Type
  | xgroupCreateMkstream .. => Unit
  | xadd .. => EntryId
  | xreadgroup .. | xautoclaim .. => Option (EntryId × P)
  | xack .. | xdel .. | zadd .. | zrem .. | sadd .. => Nat
  | xrange .. => List (EntryId × P)
  | zrangebyscore .. | smembers .. => List P

end Cmd

/-- What the server knows when it executes a command: its clock, which of the pending entries
have been idle for as long as the client asks, and whether an id that is dropped from a claim
counts towards the number of entries that the client asks for, as it does from version 7.0.4 on. -/
structure Moment where
  clock : Nat
  idle : EntryId → Bool
  dropsCount : Bool

/-- How many pending ids a claim of one entry looks at. -/
def claimScan : Nat := 10

/-- A claim of one entry among pending ids: the first one that is idle, and the ids that are
dropped on the way there because their entry is gone. -/
def Stream.claim (stream : Stream P) (moment : Moment) :
    List EntryId → Option (EntryId × P) × List EntryId
  | [] => (none, [])
  | id :: rest =>
    match stream.find id with
    | none =>
      if moment.dropsCount then
        (none, [id])
      else
        ((stream.claim moment rest).1, id :: (stream.claim moment rest).2)
    | some entry => if moment.idle id then (some entry, []) else stream.claim moment rest

namespace Keyspace

/-- A missing key is an empty stream; a key of another type is none. -/
def streamAt (keys : Keyspace P) (key : String) : Option (Stream P) :=
  match keys key with
  | none => some .empty
  | some (.stream stream) => some stream
  | some _ => none

def sortedSetAt (keys : Keyspace P) (key : String) : Option (List (P × Int)) :=
  match keys key with
  | none => some []
  | some (.sortedSet members) => some members
  | some _ => none

def setAt (keys : Keyspace P) (key : String) : Option (List P) :=
  match keys key with
  | none => some []
  | some (.set members) => some members
  | some _ => none

/-- The stream of a key and one of its consumer groups. -/
def groupAt (keys : Keyspace P) (key group : String) : Except Failure (Stream P × Group) :=
  match keys.streamAt key with
  | none => .error .wrongType
  | some stream =>
    match stream.groups.lookup group with
    | none => .error .noGroup
    | some members => .ok (stream, members)

/-- The entries that a group has handed out and not seen acknowledged. -/
def pendingAt (keys : Keyspace P) (key group : String) : List EntryId :=
  match keys.groupAt key group with
  | .ok (_, members) => members.pending
  | .error _ => []

def put (keys : Keyspace P) (key : String) (value : Value P) : Keyspace P :=
  Function.update keys key (some value)

/-- An empty sorted set is no key. -/
def putSortedSet (keys : Keyspace P) (key : String) (members : List (P × Int)) : Keyspace P :=
  Function.update keys key (if members.isEmpty then none else some (.sortedSet members))

variable [DecidableEq P]

def setScore (member : P) (score : Int) (members : List (P × Int)) : List (P × Int) :=
  if member ∈ members.map (·.1) then
    members.map fun entry => if entry.1 = member then (member, score) else entry
  else
    members ++ [(member, score)]

/-- The effect of a command. -/
def execute (moment : Moment) (keys : Keyspace P) :
    (c : Cmd P) → Except Failure (c.Reply × Keyspace P)
  | .xgroupCreateMkstream key group =>
    match keys.streamAt key with
    | none => .error .wrongType
    | some stream =>
      if group ∈ stream.groups then .error .busyGroup
      else .ok ((), keys.put key (.stream (stream.setGroup group ⟨toLex (0, 0), []⟩)))
  | .xadd key payload =>
    match keys.streamAt key with
    | none => .error .wrongType
    | some stream =>
      .ok (stream.nextId moment.clock, keys.put key (.stream (stream.append moment.clock payload)))
  | .xreadgroup key group =>
    match keys.groupAt key group with
    | .error failure => .error failure
    | .ok (stream, members) =>
      match stream.firstAfter members.lastDelivered with
      | none => .ok (none, keys)
      | some entry =>
        .ok (some entry, keys.put key (.stream (stream.setGroup group
          ⟨entry.1, members.pending ++ [entry.1]⟩)))
  | .xautoclaim key group =>
    match keys.groupAt key group with
    | .error failure => .error failure
    | .ok (stream, members) =>
      let (claimed, dropped) := stream.claim moment (members.pending.take claimScan)
      .ok (claimed, keys.put key (.stream (stream.setGroup group
        { members with pending := members.pending.filter (· ∉ dropped) })))
  | .xack key group id =>
    match keys.groupAt key group with
    | .error .wrongType => .error .wrongType
    | .error _ => .ok ((0 : Nat), keys)
    | .ok (stream, members) =>
      .ok (members.pending.count id, keys.put key (.stream (stream.setGroup group
        { members with pending := members.pending.filter (· ≠ id) })))
  | .xdel key id =>
    match keys key with
    | none => .ok ((0 : Nat), keys)
    | some (.stream stream) =>
      .ok ((stream.entries.map (·.1)).count id, keys.put key (.stream (stream.delete id)))
    | some _ => .error .wrongType
  | .xrange key =>
    match keys.streamAt key with
    | none => .error .wrongType
    | some stream => .ok (stream.entries, keys)
  | .zadd key member score =>
    match keys.sortedSetAt key with
    | none => .error .wrongType
    | some members =>
      .ok (if member ∈ members.map (·.1) then (0 : Nat) else (1 : Nat),
        keys.putSortedSet key (setScore member (toScore score) members))
  | .zrem key member =>
    match keys.sortedSetAt key with
    | none => .error .wrongType
    | some members =>
      .ok (if member ∈ members.map (·.1) then (1 : Nat) else (0 : Nat),
        keys.putSortedSet key (members.filter (·.1 ≠ member)))
  | .zrangebyscore key max limit =>
    match keys.sortedSetAt key with
    | none => .error .wrongType
    | some members =>
      let due := (members.filter (·.2 ≤ toScore max)).mergeSort fun a b => decide (a.2 ≤ b.2)
      .ok ((due.take limit).map (·.1), keys)
  | .sadd key member =>
    match keys.setAt key with
    | none => .error .wrongType
    | some members =>
      .ok (if member ∈ members then (0 : Nat) else (1 : Nat),
        keys.put key (.set (members.insert member)))
  | .smembers key =>
    match keys.setAt key with
    | none => .error .wrongType
    | some members => .ok (members, keys)

end Keyspace

/-- What is stored under every key. -/
@[ext]
structure Contents (P : Type) where
  entries : String → List (EntryId × P)
  lastId : String → EntryId
  scheduled : String → List P
  listed : String → List P

namespace Contents

def append (contents : Contents P) (key : String) (id : EntryId) (payload : P) : Contents P :=
  { contents with
    entries := Function.update contents.entries key (contents.entries key ++ [(id, payload)])
    lastId := Function.update contents.lastId key id }

def delete (contents : Contents P) (key : String) (id : EntryId) : Contents P :=
  { contents with
    entries := Function.update contents.entries key
      ((contents.entries key).filter (·.1 ≠ id)) }

variable [DecidableEq P]

def schedule (contents : Contents P) (key : String) (member : P) : Contents P :=
  { contents with
    scheduled := Function.update contents.scheduled key
      (if member ∈ contents.scheduled key then contents.scheduled key
        else contents.scheduled key ++ [member]) }

def unschedule (contents : Contents P) (key : String) (member : P) : Contents P :=
  { contents with
    scheduled := Function.update contents.scheduled key
      ((contents.scheduled key).filter (· ≠ member)) }

def enlist (contents : Contents P) (key : String) (member : P) : Contents P :=
  { contents with
    listed := Function.update contents.listed key ((contents.listed key).insert member) }

end Contents

/-- Under a missing key, and under one of another type, nothing is stored. -/
def Keyspace.contents (keys : Keyspace P) : Contents P where
  entries key := ((keys.streamAt key).getD .empty).entries
  lastId key := ((keys.streamAt key).getD .empty).lastId
  scheduled key := ((keys.sortedSetAt key).getD []).map (·.1)
  listed key := (keys.setAt key).getD []

section Views

variable {keys : Keyspace P} {key : String}

/-- A stream that takes the place of a stream or of nothing. -/
theorem contents_put_stream {stream stream' : Stream P} (found : keys.streamAt key = some stream) :
    (keys.put key (.stream stream')).contents =
      { keys.contents with
        entries := Function.update keys.contents.entries key stream'.entries
        lastId := Function.update keys.contents.lastId key stream'.lastId } := by
  ext1 <;> funext other <;> by_cases same : other = key <;>
    simp_all [Keyspace.contents, Keyspace.put, Keyspace.streamAt, Keyspace.sortedSetAt,
      Keyspace.setAt, Function.update_apply]
  all_goals
    cases at_key : keys key with
    | none => simp
    | some value => cases value <;> simp_all

theorem contents_put_sameStream {stream stream' : Stream P}
    (found : keys.streamAt key = some stream) (entries : stream'.entries = stream.entries)
    (lastId : stream'.lastId = stream.lastId) :
    (keys.put key (.stream stream')).contents = keys.contents := by
  rw [contents_put_stream found, entries, lastId]
  ext1 <;> simp [Keyspace.contents, found]

theorem contents_putSortedSet {members members' : List (P × Int)}
    (found : keys.sortedSetAt key = some members) :
    (keys.putSortedSet key members').contents =
      { keys.contents with
        scheduled := Function.update keys.contents.scheduled key (members'.map (·.1)) } := by
  ext1 <;> funext other <;> by_cases same : other = key <;>
    simp_all [Keyspace.contents, Keyspace.putSortedSet, Keyspace.streamAt, Keyspace.sortedSetAt,
      Keyspace.setAt, Function.update_apply]
  all_goals
    cases at_key : keys key with
    | none => cases members' <;> simp
    | some value => cases value <;> cases members' <;> simp_all

theorem contents_put_set {members members' : List P} (found : keys.setAt key = some members) :
    (keys.put key (.set members')).contents =
      { keys.contents with listed := Function.update keys.contents.listed key members' } := by
  ext1 <;> funext other <;> by_cases same : other = key <;>
    simp_all [Keyspace.contents, Keyspace.put, Keyspace.streamAt, Keyspace.sortedSetAt,
      Keyspace.setAt, Function.update_apply]
  all_goals
    cases at_key : keys key with
    | none => simp
    | some value => cases value <;> simp_all

theorem groupAt_eq_ok {group : String} {found : Stream P × Group} (h : keys.groupAt key group = .ok found) :
    keys.streamAt key = some found.1 := by
  unfold Keyspace.groupAt at h
  split at h
  · cases h
  · split at h
    · cases h
    · cases h
      assumption

theorem contents_ids_unique (keys : Keyspace P) (key : String) :
    ((keys.contents.entries key).map (·.1)).Nodup :=
  ((keys.streamAt key).getD .empty).unique

theorem contents_ids_bounded (keys : Keyspace P) (key : String) :
    ∀ entry ∈ keys.contents.entries key, entry.1 ≤ keys.contents.lastId key :=
  ((keys.streamAt key).getD .empty).bounded

end Views

section Claims

variable {moment : Moment} {stream : Stream P} {ids : List EntryId} {entry : EntryId × P}

theorem find_eq_some (stored : entry ∈ stream.entries) : stream.find entry.1 = some entry := by
  cases found : stream.find entry.1 with
  | none =>
    have missing := List.find?_eq_none.1 found entry stored
    simp at missing
  | some other =>
    have same : other.1 = entry.1 := by simpa using List.find?_some found
    have mem := List.mem_of_find?_eq_some found
    rw [List.inj_on_of_nodup_map stream.unique mem stored same]

/-- What is claimed is stored, and was idle in its place. -/
theorem claim_some (claimed : (stream.claim moment ids).1 = some entry) :
    entry ∈ stream.entries ∧ entry.1 ∈ ids ∧ moment.idle entry.1 = true := by
  induction ids with
  | nil => cases claimed
  | cons id rest ih =>
    rw [Stream.claim] at claimed
    split at claimed
    · split_ifs at claimed
      obtain ⟨stored, mem, idle⟩ := ih claimed
      exact ⟨stored, List.mem_cons_of_mem _ mem, idle⟩
    · next held found =>
      split_ifs at claimed with idle
      · obtain rfl := Option.some.inj claimed
        have same : held.1 = id := by simpa using List.find?_some found
        exact ⟨List.mem_of_find?_eq_some found, by simp [same], same ▸ idle⟩
      · obtain ⟨stored, mem, idle⟩ := ih claimed
        exact ⟨stored, List.mem_cons_of_mem _ mem, idle⟩

/-- Nothing is claimed only if no entry is idle that is reached past stored ones. -/
theorem claim_none {before after : List EntryId} (nothing : (stream.claim moment ids).1 = none)
    (split : ids = before ++ entry.1 :: after)
    (kept : ∀ id ∈ before, id ∈ stream.entries.map (·.1)) (stored : entry ∈ stream.entries) :
    moment.idle entry.1 = false := by
  induction before generalizing ids with
  | nil =>
    subst split
    rw [List.nil_append, Stream.claim, find_eq_some stored] at nothing
    dsimp only at nothing
    split_ifs at nothing with idle
    simpa using idle
  | cons id before ih =>
    subst split
    obtain ⟨first, later⟩ := List.forall_mem_cons.1 kept
    obtain ⟨other, mem, rfl⟩ := List.mem_map.1 first
    rw [List.cons_append, Stream.claim, find_eq_some mem] at nothing
    dsimp only at nothing
    split_ifs at nothing
    exact ih nothing rfl later

/-- No id is dropped while all entries are there. -/
theorem claim_dropped (kept : ∀ id ∈ ids, id ∈ stream.entries.map (·.1)) :
    (stream.claim moment ids).2 = [] := by
  induction ids with
  | nil => rfl
  | cons id rest ih =>
    obtain ⟨first, later⟩ := List.forall_mem_cons.1 kept
    obtain ⟨entry, mem, rfl⟩ := List.mem_map.1 first
    rw [Stream.claim, find_eq_some mem]
    dsimp only
    split_ifs
    · rfl
    · exact ih later

end Claims

section Effects

variable [DecidableEq P] {moment : Moment} {keys keys' : Keyspace P} {key group : String}

theorem xgroupCreateMkstream_spec {reply : Unit}
    (done : keys.execute moment (.xgroupCreateMkstream key group) = .ok (reply, keys')) :
    keys'.contents = keys.contents := by
  simp only [Keyspace.execute] at done
  split at done
  · cases done
  · next stream found =>
    split_ifs at done
    cases done
    exact contents_put_sameStream found rfl rfl

theorem xadd_spec {payload : P} {id : EntryId}
    (done : keys.execute moment (.xadd key payload) = .ok (id, keys')) :
    keys.contents.lastId key < id ∧ keys'.contents = keys.contents.append key id payload := by
  simp only [Keyspace.execute] at done
  split at done
  · cases done
  · next stream found =>
    cases done
    have entries : keys.contents.entries key = stream.entries := by simp [Keyspace.contents, found]
    have lastId : keys.contents.lastId key = stream.lastId := by simp [Keyspace.contents, found]
    refine ⟨lastId ▸ stream.lastId_lt_nextId moment.clock, ?_⟩
    rw [contents_put_stream found, Contents.append, entries]
    rfl

theorem xreadgroup_spec {reply : Option (EntryId × P)}
    (done : keys.execute moment (.xreadgroup key group) = .ok (reply, keys')) :
    keys'.contents = keys.contents ∧ ∀ entry, reply = some entry →
      entry ∈ keys.contents.entries key := by
  simp only [Keyspace.execute] at done
  split at done
  · cases done
  · next stream members found =>
    have at_key := groupAt_eq_ok found
    split at done
    · cases done
      simp
    · next entry first =>
      cases done
      refine ⟨contents_put_sameStream at_key rfl rfl, ?_⟩
      rintro _ ⟨⟩
      simpa [Keyspace.contents, at_key] using List.mem_of_find?_eq_some first

theorem xautoclaim_spec {reply : Option (EntryId × P)}
    (done : keys.execute moment (.xautoclaim key group) = .ok (reply, keys')) :
    keys'.contents = keys.contents ∧ ∀ entry, reply = some entry →
      entry ∈ keys.contents.entries key := by
  simp only [Keyspace.execute] at done
  split at done
  · cases done
  · next stream members found =>
    have at_key := groupAt_eq_ok found
    cases done
    refine ⟨contents_put_sameStream at_key rfl rfl, ?_⟩
    intro entry claimed
    simpa [Keyspace.contents, at_key] using (claim_some claimed).1

theorem xack_spec {id : EntryId} {reply : Nat}
    (done : keys.execute moment (.xack key group id) = .ok (reply, keys')) :
    keys'.contents = keys.contents := by
  simp only [Keyspace.execute] at done
  split at done
  · cases done
  · cases done
    rfl
  · next stream members found =>
    cases done
    exact contents_put_sameStream (groupAt_eq_ok found) rfl rfl

theorem xdel_spec {id : EntryId} {reply : Nat}
    (done : keys.execute moment (.xdel key id) = .ok (reply, keys')) :
    keys'.contents = keys.contents.delete key id := by
  simp only [Keyspace.execute] at done
  split at done
  · next missing =>
    cases done
    ext1 <;> simp [Contents.delete, Keyspace.contents, Keyspace.streamAt, missing, Stream.empty]
  · next stream found =>
    cases done
    have at_key : keys.streamAt key = some stream := by simp [Keyspace.streamAt, found]
    rw [contents_put_stream at_key]
    ext1 <;> simp [Contents.delete, Keyspace.contents, at_key, Stream.delete]
  · cases done

/-- An acknowledged entry is no longer pending. -/
theorem xack_pendingAt {id : EntryId} {reply : Nat}
    (done : keys.execute moment (.xack key group id) = .ok (reply, keys')) :
    id ∉ keys'.pendingAt key group := by
  simp only [Keyspace.execute] at done
  split at done
  · cases done
  · next failure found =>
    cases done
    simp [Keyspace.pendingAt, found]
  · next stream members found =>
    cases done
    simp [Keyspace.pendingAt, Keyspace.groupAt, Keyspace.streamAt, Keyspace.put, Stream.setGroup]

/-- Deleting an entry leaves the groups alone. -/
theorem xdel_pendingAt {key' : String} {id : EntryId} {reply : Nat}
    (done : keys.execute moment (.xdel key' id) = .ok (reply, keys')) :
    keys'.pendingAt key group = keys.pendingAt key group := by
  simp only [Keyspace.execute] at done
  split at done
  · cases done
    rfl
  · next stream found =>
    cases done
    by_cases same : key = key'
    · subst same
      simp only [Keyspace.pendingAt, Keyspace.groupAt, Keyspace.streamAt, Keyspace.put, found,
        Function.update_self, Stream.delete]
      cases stream.groups.lookup group <;> rfl
    · simp [Keyspace.pendingAt, Keyspace.groupAt, Keyspace.streamAt, Keyspace.put, same]
  · cases done

theorem xrange_spec {reply : List (EntryId × P)}
    (done : keys.execute moment (.xrange key) = .ok (reply, keys')) :
    keys' = keys ∧ reply = keys.contents.entries key := by
  simp only [Keyspace.execute] at done
  split at done
  · cases done
  · next stream found =>
    cases done
    exact ⟨rfl, by simp [Keyspace.contents, found]⟩

theorem map_fst_setScore (member : P) (score : Int) (members : List (P × Int)) :
    (Keyspace.setScore member score members).map (·.1) =
      if member ∈ members.map (·.1) then members.map (·.1)
      else members.map (·.1) ++ [member] := by
  unfold Keyspace.setScore
  split_ifs with old
  · rw [List.map_map]
    apply List.map_congr_left
    intro entry _
    by_cases same : entry.1 = member <;> simp [same]
  · simp

theorem zadd_spec {member : P} {score : Int} {reply : Nat}
    (done : keys.execute moment (.zadd key member score) = .ok (reply, keys')) :
    keys'.contents = keys.contents.schedule key member := by
  simp only [Keyspace.execute] at done
  split at done
  · cases done
  · next members found =>
    cases done
    have scheduled : keys.contents.scheduled key = members.map (·.1) := by
      simp [Keyspace.contents, found]
    rw [contents_putSortedSet found, map_fst_setScore, Contents.schedule, scheduled]

theorem zrem_spec {member : P} {reply : Nat}
    (done : keys.execute moment (.zrem key member) = .ok (reply, keys')) :
    (reply ≠ 0 ↔ member ∈ keys.contents.scheduled key) ∧
      keys'.contents = keys.contents.unschedule key member := by
  simp only [Keyspace.execute] at done
  split at done
  · cases done
  · next members found =>
    cases done
    have scheduled : keys.contents.scheduled key = members.map (·.1) := by
      simp [Keyspace.contents, found]
    constructor
    · rw [scheduled]
      split_ifs with held <;> simp [held]
    · rw [contents_putSortedSet found, Contents.unschedule, scheduled, List.filter_map]
      rfl

theorem zrangebyscore_spec {max : Int} {limit : Nat} {reply : List P}
    (done : keys.execute moment (.zrangebyscore key max limit) = .ok (reply, keys')) :
    keys' = keys ∧ ∀ member ∈ reply, member ∈ keys.contents.scheduled key := by
  simp only [Keyspace.execute] at done
  split at done
  · cases done
  · next members found =>
    cases done
    refine ⟨rfl, ?_⟩
    intro member mem
    obtain ⟨entry, due, rfl⟩ := List.mem_map.1 mem
    have held := List.mem_of_mem_filter (List.mem_mergeSort.1 (List.mem_of_mem_take due))
    simpa [Keyspace.contents, found] using ⟨entry.2, held⟩

theorem sadd_spec {member : P} {reply : Nat}
    (done : keys.execute moment (.sadd key member) = .ok (reply, keys')) :
    keys'.contents = keys.contents.enlist key member := by
  simp only [Keyspace.execute] at done
  split at done
  · cases done
  · next members found =>
    cases done
    rw [contents_put_set found, Contents.enlist]
    simp [Keyspace.contents, found]

theorem smembers_spec {reply : List P}
    (done : keys.execute moment (.smembers key) = .ok (reply, keys')) :
    keys' = keys ∧ reply = keys.contents.listed key := by
  simp only [Keyspace.execute] at done
  split at done
  · cases done
  · next members found =>
    cases done
    exact ⟨rfl, by simp [Keyspace.contents, found]⟩

end Effects

end NexusCore.Lib.Redis
