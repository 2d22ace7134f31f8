import NexusCore.Lib.RedisGroups
import NexusCore.Runtime.Broker.RedisRegistry

/-!
# Delays of retries in Redis

A retry that is scheduled at `t` with a delay `d` becomes a member of a sorted set with the score
`t + d`, and the promotion takes out what has a score up to its own clock. Both are 64-bit sums
and conversions, and the server compares double-precision numbers, so that the delay is kept
where the sum is a signed number and the two scores stay apart.
-/

namespace NexusCore.Runtime

open NexusCore.Lib

namespace RedisStreams

/-- Other clients may do anything but put a retry back or change its score. -/
def Others (key : String) (retry : RedisDelayedEnvelope)
    (keys keys' : Redis.Keyspace RedisPayload) : Prop :=
  ∀ score, (.delayed retry, score) ∈ keys'.scoresAt key → (.delayed retry, score) ∈ keys.scoresAt key

/-- A call whose clock reads a time, with other clients before each of its commands. -/
def amid (key : String) (retry : RedisDelayedEnvelope) (time : UInt64) :
    Handler (Redis.Keyspace RedisPayload) RedisOp RedisOp.Answer
  | keys, .command _, .error _, keys' => Others key retry keys keys'
  | keys, .command c, .ok reply, keys' => ∃ moment between, Others key retry keys between ∧
    between.execute moment c = .ok (reply, keys')
  | keys, .nowMs, reading, keys' => reading = time ∧ keys' = keys
  | keys, .newToken, token, keys' => token = retry.token ∧ keys' = keys
  | keys, .connect, _, keys' | keys, .parse _, _, keys' | keys, .adapter, _, keys'
  | keys, .setAdapter _, _, keys' => keys' = keys

/-- The command that takes a retry out of its sorted set. -/
def moves (key : String) (retry : RedisDelayedEnvelope) : Redis.Keyspace RedisPayload →
    (op : RedisOp) → op.Answer → Redis.Keyspace RedisPayload → Bool
  | _, .command (.zrem other member), .ok (removed : Nat), _ =>
    other = key && member = .delayed retry && removed ≠ 0
  | _, _, _, _ => false

/-- A promotion at a time that moves a retry. -/
def Promotes (key : String) (retry : RedisDelayedEnvelope) (other : RedisRouteTopology)
    (now : UInt64) (keys : Redis.Keyspace RedisPayload) : Prop :=
  ∃ o keys', Exec ((amid key retry now).noting (moves key retry)) (promoteDueRetries other)
    (keys, false) o (keys', true)

/-- What a delay is to guarantee: neither the score nor the clock that it is compared with wraps,
and no promotion of any route moves the retry too early, whatever else the server holds. -/
structure DelayKept (topology : RedisRouteTopology) (envelope : RedisEnvelope)
    (t d now : UInt64) : Prop where
  sum : t.toNat + d.toNat < 2 ^ 64
  score : asIsize (t + d) = t.toNat + d.toNat
  reading : asIsize now = now.toNat
  waits : now.toNat < t.toNat + d.toNat → ∀ token keys keys' other,
    Exec (amid topology.delayedKey ⟨token, envelope⟩ t) (publishDelayedRetry topology envelope d)
      keys (.ok ()) keys' →
    ¬ Promotes topology.delayedKey ⟨token, envelope⟩ other now keys'

section Times

theorem asIsize_eq_iff (time : UInt64) : asIsize time = time.toNat ↔ time.toNat < 2 ^ 63 := by
  have signed : asIsize time =
      if 2 * time.toNat < 2 ^ 64 then (time.toNat : Int) else time.toNat - 2 ^ 64 :=
    BitVec.toInt_eq_toNat_cond time.toBitVec
  rw [signed]
  split_ifs with small
  · exact ⟨fun _ => by omega, fun _ => rfl⟩
  · constructor
    · intro same
      omega
    · intro below
      omega

end Times

section Promotion

variable {key : String} {retry : RedisDelayedEnvelope} {now : UInt64}
  {other : RedisRouteTopology}

/-- All scores of a retry. -/
def Scored (key : String) (retry : RedisDelayedEnvelope) (score : Int)
    (keys : Redis.Keyspace RedisPayload) : Prop :=
  ∀ kept, (.delayed retry, kept) ∈ keys.scoresAt key → kept = score

theorem unmoved {op : RedisOp} {reply : op.Answer} {keys keys' : Redis.Keyspace RedisPayload}
    (apart : op ≠ .command (.zrem key (.delayed retry))) : moves key retry keys op reply keys' = false := by
  unfold moves
  split
  · next member removed =>
    simp only [ne_eq, RedisOp.command.injEq, Redis.Cmd.zrem.injEq, not_and] at apart
    by_cases here : ‹String› = key
    · simp [apart here]
    · simp [here]
  · rfl

/-- The promotion takes out the members that it was given. -/
theorem promote_issues {payloads : List RedisPayload}
    (away : other.delayedKey = key → .delayed retry ∉ payloads) :
    (promote other payloads).Issues (· ≠ .command (.zrem key (.delayed retry))) := by
  have harmless : ∀ op, Harmless op → op ≠ .command (.zrem key (.delayed retry)) := by
    rintro _ is_harmless rfl
    exact is_harmless
  induction payloads with
  | nil => exact .ret
  | cons payload rest ih =>
    have later := ih fun same mem => away same (List.mem_cons_of_mem _ mem)
    simp only [promote, Prog.bind_def]
    refine (query_issues ?_).bind fun removed => ?_
    · intro same
      injection same with same
      injection same with at_key here
      exact away at_key (here ▸ List.mem_cons_self)
    · split_ifs
      · exact later
      · refine Prog.Issues.bind ?_ fun delayed => ?_
        · refine .call (harmless _ trivial) fun parses => ?_
          split
          · exact .ret
          · exact .fail
        · exact (publishEnvelope_issues harmless (by simp)).bind fun _ => later

theorem others_scored {score : Int} {keys keys' : Redis.Keyspace RedisPayload}
    (scored : Scored key retry score keys) (others : Others key retry keys keys') :
    Scored key retry score keys' :=
  fun kept mem => scored kept (others kept mem)

theorem unflagged {α : Type} {p : RedisProg α} {keys keys' : Redis.Keyspace RedisPayload}
    {o : Except AppError α} {noted : Bool}
    (issues : p.Issues (· ≠ .command (.zrem key (.delayed retry))))
    (run : Exec ((amid key retry now).noting (moves key retry)) p (keys, false) o (keys', noted)) :
    noted = false := by
  have safe : Safe ((amid key retry now).noting (moves key retry)) (fun t => t.2 = false)
      (fun _ t => t.2 = false) p (keys, false) := by
    refine Safe.of_issues issues ?_ rfl
    intro s op reply u apart flag step
    rw [step.2, flag, unmoved apart]
    rfl
  exact safe.exec run

/-- Before its time a retry is not found. -/
theorem not_found {score : Int} {keys keys' : Redis.Keyspace RedisPayload} {moment : Redis.Moment}
    {payloads : List RedisPayload} (scored : Scored key retry score keys)
    (early : toScore (asIsize now) < score)
    (executed : keys.execute moment (.zrangebyscore other.delayedKey (asIsize now) 32) =
      .ok (payloads, keys')) : other.delayedKey = key → .delayed retry ∉ payloads := by
  rintro rfl mem
  obtain ⟨kept, low, held⟩ := Redis.zrangebyscore_scoresAt executed mem
  have same := scored kept held
  omega

/-- So it is not moved. -/
theorem not_promotes {score : Int} {keys : Redis.Keyspace RedisPayload}
    (scored : Scored key retry score keys) (early : toScore (asIsize now) < score) :
    ¬ Promotes key retry other now keys := by
  intro ⟨o, keys', run⟩
  simp only [promoteDueRetries, connection, nowMs, query, Prog.bind_def, Prog.bind] at run
  obtain ⟨reply, between, connected, run⟩ := exec_call_noting.1 run
  obtain rfl : between = keys := connected
  cases reply with
  | error error =>
    have := unflagged .fail run
    cases this
  | ok =>
    obtain ⟨reading, between, ⟨rfl, rfl⟩, run⟩ := exec_call_noting.1 run
    obtain ⟨reply, after, answered, run⟩ := exec_call_noting.1 run
    cases reply with
    | error error =>
      have := unflagged .fail run
      cases this
    | ok payloads =>
      obtain ⟨moment, found, others, executed⟩ := answered
      have away := not_found (others_scored scored others) early executed
      have := unflagged (promote_issues away) run
      cases this

end Promotion

section Scheduling

variable {topology : RedisRouteTopology} {envelope : RedisEnvelope} {token : String}
  {t d now : UInt64} {keys keys' : Redis.Keyspace RedisPayload}

/-- A scheduled retry has the sum as its score. -/
theorem publishDelayedRetry_scored
    (run : Exec (amid topology.delayedKey ⟨token, envelope⟩ t)
      (publishDelayedRetry topology envelope d) keys (.ok ()) keys') :
    Scored topology.delayedKey ⟨token, envelope⟩ (toScore (asIsize (t + d))) keys' := by
  simp only [publishDelayedRetry, connection, newToken, nowMs, query, Prog.bind_def, Prog.bind] at run
  obtain ⟨connected, _, -, run⟩ := exec_call.1 run
  cases connected with
  | error error =>
    obtain ⟨failed, -⟩ := exec_fail.1 run
    cases failed
  | ok =>
    obtain ⟨_, _, ⟨rfl, -⟩, run⟩ := exec_call.1 run
    obtain ⟨_, _, ⟨rfl, -⟩, run⟩ := exec_call.1 run
    obtain ⟨reply, _, answered, run⟩ := exec_call.1 run
    cases reply with
    | error error =>
      obtain ⟨failed, -⟩ := exec_fail.1 run
      cases failed
    | ok added =>
      obtain ⟨moment, between, -, executed⟩ := answered
      obtain ⟨-, rfl⟩ := exec_ret.1 run
      exact fun kept mem => Redis.zadd_scoresAt executed mem

theorem amid_total (key : String) (retry : RedisDelayedEnvelope) (time : UInt64)
    (keys : Redis.Keyspace RedisPayload) (op : RedisOp) :
    ∃ reply keys', amid key retry time keys op reply keys' := by
  cases op with
  | command c => exact ⟨.error ⟨none, ""⟩, keys, fun _ mem => mem⟩
  | connect => exact ⟨.ok (), keys, rfl⟩
  | nowMs => exact ⟨time, keys, rfl, rfl⟩
  | newToken => exact ⟨retry.token, keys, rfl, rfl⟩
  | parse => exact ⟨true, keys, rfl⟩
  | adapter => exact ⟨.new, keys, rfl⟩
  | setAdapter => exact ⟨(), keys, rfl⟩

theorem amid_execute {key : String} {retry : RedisDelayedEnvelope} {time : UInt64}
    {c : Redis.Cmd RedisPayload} {reply : c.Reply}
    (executed : keys.execute ⟨0, fun _ => false, true⟩ c = .ok (reply, keys')) :
    amid key retry time keys (.command c) (.ok reply) keys' :=
  ⟨_, keys, fun _ mem => mem, executed⟩

/-- The server after a retry was scheduled on an empty one. -/
def scheduledAlone (topology : RedisRouteTopology) (retry : RedisDelayedEnvelope) (score : Int) :
    Redis.Keyspace RedisPayload :=
  Redis.Keyspace.putSortedSet (fun _ => none) topology.delayedKey [(.delayed retry, toScore score)]

/-- A retry whose score is not above the clock is moved. -/
theorem promotes_of_le {retry : RedisDelayedEnvelope} {score : Int}
    (due : toScore score ≤ toScore (asIsize now)) :
    Promotes topology.delayedKey retry topology now (scheduledAlone topology retry score) := by
  have at_key : (scheduledAlone topology retry score).sortedSetAt topology.delayedKey =
      some [(.delayed retry, toScore score)] := by
    simp [scheduledAlone, Redis.Keyspace.putSortedSet, Redis.Keyspace.sortedSetAt]
  have found : (scheduledAlone topology retry score).execute ⟨0, fun _ => false, true⟩
      (.zrangebyscore topology.delayedKey (asIsize now) 32) =
        .ok ([.delayed retry], scheduledAlone topology retry score) := by
    simp [Redis.Keyspace.execute, at_key, due]
  have removed : (scheduledAlone topology retry score).execute ⟨0, fun _ => false, true⟩
      (.zrem topology.delayedKey (.delayed retry)) =
        .ok ((1 : Nat), Redis.Keyspace.putSortedSet (scheduledAlone topology retry score)
          topology.delayedKey []) := by
    simp [Redis.Keyspace.execute, at_key]
  let taken := Redis.Keyspace.putSortedSet (scheduledAlone topology retry score) topology.delayedKey []
  have total : ∀ s op, ∃ reply u,
      ((amid topology.delayedKey retry now).noting (moves topology.delayedKey retry)) s op reply u := by
    intro s op
    obtain ⟨reply, keys', step⟩ := amid_total topology.delayedKey retry now s.1 op
    exact ⟨reply, (keys', s.2 || moves topology.delayedKey retry s.1 op reply keys'), step, rfl⟩
  obtain ⟨o, ⟨keys', noted⟩, rest⟩ := exists_exec total
    ((decode RedisPayload.asDelayed (.delayed retry)).bind fun delayed =>
      (publishEnvelope topology delayed.envelope).bind fun _ => promote topology []) (taken, true)
  obtain rfl : noted = true := rest.noted rfl
  refine ⟨o, keys', ?_⟩
  simp only [promoteDueRetries, connection, nowMs, query, Prog.bind_def, Prog.bind]
  refine exec_call_noting.2 ⟨.ok (), _, rfl, ?_⟩
  refine exec_call_noting.2 ⟨now, _, ⟨rfl, rfl⟩, ?_⟩
  refine exec_call_noting.2 ⟨.ok [.delayed retry], _, amid_execute found, ?_⟩
  refine exec_call_noting.2 ⟨.ok (1 : Nat), _, amid_execute removed, ?_⟩
  have flag : (taken, moves topology.delayedKey retry (scheduledAlone topology retry score)
      (.command (.zrem topology.delayedKey (.delayed retry))) (.ok (1 : Nat)) taken) =
        (taken, true) := by
    simp [moves]
  rw [← flag] at rest
  exact rest

theorem exec_scheduledAlone :
    Exec (amid topology.delayedKey ⟨token, envelope⟩ t) (publishDelayedRetry topology envelope d)
      (fun _ => none) (.ok ()) (scheduledAlone topology ⟨token, envelope⟩ (asIsize (t + d))) := by
  have added : Redis.Keyspace.execute ⟨0, fun _ => false, true⟩ (fun _ => none)
      (.zadd topology.delayedKey (.delayed ⟨token, envelope⟩) (asIsize (t + d))) =
        .ok ((1 : Nat), scheduledAlone topology ⟨token, envelope⟩ (asIsize (t + d))) := by
    simp [Redis.Keyspace.execute, Redis.Keyspace.sortedSetAt, Redis.Keyspace.setScore,
      scheduledAlone]
  simp only [publishDelayedRetry, connection, newToken, nowMs, query, Prog.bind_def, Prog.bind]
  refine exec_call.2 ⟨.ok (), _, rfl, ?_⟩
  refine exec_call.2 ⟨token, _, ⟨rfl, rfl⟩, ?_⟩
  refine exec_call.2 ⟨t, _, ⟨rfl, rfl⟩, ?_⟩
  refine exec_call.2 ⟨.ok (1 : Nat), _, amid_execute added, ?_⟩
  exact .ret () _

theorem toNat_add_of_lt (small : t.toNat + d.toNat < 2 ^ 64) :
    (t + d).toNat = t.toNat + d.toNat := by
  rw [UInt64.toNat_add, Nat.mod_eq_of_lt small]

theorem delayKept_of (low : t.toNat + d.toNat < 2 ^ 63) (reading : now.toNat < 2 ^ 63)
    (apart : now.toNat < t.toNat + d.toNat →
      toScore now.toNat < toScore (t.toNat + d.toNat : Nat)) :
    DelayKept topology envelope t d now := by
  have sum := toNat_add_of_lt (t := t) (d := d) (by omega)
  have score : asIsize (t + d) = (t.toNat + d.toNat : Nat) := by
    rw [← sum]
    exact (asIsize_eq_iff _).2 (by omega)
  have clock := (asIsize_eq_iff now).2 reading
  refine ⟨by omega, by rw [score, Int.natCast_add], clock, ?_⟩
  intro early token keys keys' other run
  refine not_promotes (publishDelayedRetry_scored run) ?_
  rw [clock, score]
  exact apart early

/-- A delay is kept if and only if the sum and the clock are signed numbers and the server tells
an earlier clock from the sum. -/
theorem delayKept_iff : DelayKept topology envelope t d now ↔
    t.toNat + d.toNat < 2 ^ 63 ∧ now.toNat < 2 ^ 63 ∧
      (now.toNat < t.toNat + d.toNat → toScore now.toNat < toScore (t.toNat + d.toNat : Nat)) := by
  constructor
  · intro kept
    have sum := toNat_add_of_lt kept.sum
    have score : asIsize (t + d) = (t + d).toNat := by
      rw [sum, kept.score, Int.natCast_add]
    refine ⟨sum ▸ (asIsize_eq_iff _).1 score, (asIsize_eq_iff _).1 kept.reading, fun early => ?_⟩
    by_contra late
    refine kept.waits early "" _ _ topology exec_scheduledAlone (promotes_of_le ?_)
    rw [kept.reading, score, sum]
    omega
  · intro ⟨low, reading, apart⟩
    exact delayKept_of low reading apart

/-- The score of a delay of `2 ^ 63` milliseconds is negative: the retry is moved at once. -/
theorem longest_delay_not_kept : ¬ DelayKept
    (buildRedisRouteTopology ⟨"nexus", "workers", 30000⟩ "oj" "fast")
    { task := { sampleTask "task-1" "oj" 3 with retryPolicy := ⟨3, 2 ^ 63⟩ },
      attempt := 2, lastError := some "worker crashed" }
    1760000000000 (2 ^ 63) 1760000000000 := by
  intro kept
  exact kept.waits (by decide +kernel) "token" _ _ _ exec_scheduledAlone (promotes_of_le (by decide +kernel))

end Scheduling

end RedisStreams

end NexusCore.Runtime
