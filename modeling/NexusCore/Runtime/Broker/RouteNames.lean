import Mathlib.Data.List.Basic
import NexusCore.Runtime.Broker.Routes

/-!
# The names of different routes

A broker keeps what belongs to a route under names that are built from the route's queue and
lane. Characters outside of a safe set are replaced, the separator and the suffixes may occur in
a queue or a lane, and the names of the consumers know fewer characters. The names of two routes
are therefore different only under a condition on the route names, which is made exact here for
each of the three brokers.
-/

namespace NexusCore.Runtime

open NexusCore.Lib

/-- What a broker keeps for a route under a name of its own. -/
inductive RouteStore where
  | work
  | retry
  | deadLetter
  | consumer
  deriving DecidableEq, Repr

/-- The name of a store in RabbitMQ, which has no consumers. -/
def rabbitMqName (config : RabbitMqQueueConfig) (route : Route) : RouteStore → Option String
  | .work => some (buildRouteTopology config route.1 route.2).queueName
  | .retry => some (buildRouteTopology config route.1 route.2).retryQueueName
  | .deadLetter => some (buildRouteTopology config route.1 route.2).deadLetterQueueName
  | .consumer => none

/-- The name of a store in NATS, which has no store of its own for retries. -/
def natsName (config : NatsQueueConfig) (route : Route) : RouteStore → Option String
  | .work => some (buildNatsRouteTopology config route.1 route.2).subject
  | .retry => none
  | .deadLetter => some (buildNatsRouteTopology config route.1 route.2).deadLetterSubject
  | .consumer => some (buildNatsRouteTopology config route.1 route.2).consumerName

def redisName (config : RedisStreamsQueueConfig) (route : Route) : RouteStore → Option String
  | .work => some (buildRedisRouteTopology config route.1 route.2).streamKey
  | .retry => some (buildRedisRouteTopology config route.1 route.2).delayedKey
  | .deadLetter => some (buildRedisRouteTopology config route.1 route.2).deadLetterStreamKey
  | .consumer => some (buildRedisRouteTopology config route.1 route.2).consumerGroup

/-- The stores of a route have different names. -/
def OwnNamesApart (names : RouteStore → Option String) : Prop :=
  ∀ k l name, names k = some name → names l = some name → k = l

/-- No store of one route bears the name of a store of the other. -/
def NamesApart (names names' : RouteStore → Option String) : Prop :=
  ∀ k l name, names k = some name → names' l ≠ some name

/-- The stores of two routes do not get in each other's way. -/
structure RoutesIsolated (names : Route → RouteStore → Option String) (a b : Route) : Prop where
  own : OwnNamesApart (names a)
  others : OwnNamesApart (names b)
  apart : NamesApart (names a) (names b)

/-- The stores of all routes in use are apart. -/
def AllIsolated (names : Route → RouteStore → Option String) (routes : Set Route) : Prop :=
  ∀ a ∈ routes, ∀ b ∈ routes, a ≠ b → RoutesIsolated names a b

/-- A name tells the route and the kind of the store. -/
theorem AllIsolated.eq_of_name {names : Route → RouteStore → Option String} {routes : Set Route}
    {a b : Route} {k l : RouteStore} {name : String} (isolated : AllIsolated names routes)
    (own : ∀ route, OwnNamesApart (names route)) (used : a ∈ routes) (used' : b ∈ routes)
    (first : names a k = some name) (second : names b l = some name) : a = b ∧ k = l := by
  by_cases same : a = b
  · subst same
    exact ⟨rfl, own a k l name first second⟩
  · exact absurd second ((isolated a used b used' same).apart k l name first)

theorem RoutesIsolated.symm {names : Route → RouteStore → Option String} {a b : Route}
    (isolated : RoutesIsolated names a b) : RoutesIsolated names b a :=
  ⟨isolated.others, isolated.own, fun k l name first second => isolated.apart l k name second first⟩

theorem allIsolated_pair {names : Route → RouteStore → Option String} {a b : Route}
    (isolated : RoutesIsolated names a b) : AllIsolated names {a, b} := by
  rintro c (rfl | rfl) d (rfl | rfl) ne
  · exact absurd rfl ne
  · exact isolated
  · exact isolated.symm
  · exact absurd rfl ne

/-- The name of a route with both of its parts. -/
def Route.name (route : Route) : String := routeName route.1 route.2

/-- One route is named like the retries or the dead letters of the other. -/
def Suffixed (a b : Route) : Prop := a.name = b.name ++ ".retry" ∨ a.name = b.name ++ ".dead"

/-- Neither of two routes is named like a store of the other. -/
def Unsuffixed (a b : Route) : Prop := ¬ Suffixed a b ∧ ¬ Suffixed b a

section Text

theorem append_ne_append_of_last {a b : String} {c d : Char} (ne : c ≠ d) :
    a ++ String.singleton c ≠ b ++ String.singleton d := by
  apply Text.append_ne
  · simp
  · intro same
    have chars := congrArg String.toList same
    simp at chars
    exact ne chars

/-- Retries and dead letters never share a name. -/
theorem retry_ne_dead (a b : String) : a ++ ".retry" ≠ b ++ ".dead" := by
  have retry : ".retry" = ".retr" ++ String.singleton 'y' := by decide
  have dead : ".dead" = ".dea" ++ String.singleton 'd' := by decide
  rw [retry, dead, ← String.append_assoc, ← String.append_assoc]
  exact append_ne_append_of_last (by decide)

theorem append_ne_self {a b : String} (nonempty : b ≠ "") : a ++ b ≠ a := by
  intro same
  have lengths := congrArg String.length same
  rw [String.length_append] at lengths
  have empty : b.length = 0 := by omega
  exact nonempty (String.length_eq_zero_iff.1 empty)

/-- The names of consumers have no dots. -/
theorem dot_notMem_sanitizeConsumerName (s : String) : '.' ∉ (sanitizeConsumerName s).toList := by
  intro mem
  simp only [sanitizeConsumerName, sanitize, String.toList_map, List.mem_map] at mem
  obtain ⟨c, -, same⟩ := mem
  split_ifs at same with safe
  · subst same
    revert safe
    decide
  · revert same
    decide

end Text

section Stores

variable {p m n : String}

/-- The three stores of a route as RabbitMQ and Redis name them: the route's name after a
prefix, with a suffix. -/
def storeName (p n : String) : RouteStore → Option String
  | .work => some (p ++ "." ++ n)
  | .retry => some (p ++ "." ++ n ++ ".retry")
  | .deadLetter => some (p ++ "." ++ n ++ ".dead")
  | .consumer => none

theorem storeName_own (p n : String) : OwnNamesApart (storeName p n) := by
  have retry : p ++ "." ++ n ++ ".retry" ≠ p ++ "." ++ n := append_ne_self (by decide)
  have dead : p ++ "." ++ n ++ ".dead" ≠ p ++ "." ++ n := append_ne_self (by decide)
  have other := retry_ne_dead (p ++ "." ++ n) (p ++ "." ++ n)
  intro k l name first second
  cases k <;> cases l <;> simp only [storeName] at first second <;> grind

/-- The stores of two routes are different exactly when the routes have different names and
neither is named like a store of the other. -/
theorem storeName_apart_iff (p m n : String) : NamesApart (storeName p m) (storeName p n) ↔
    m ≠ n ∧ (m ≠ n ++ ".retry" ∧ m ≠ n ++ ".dead") ∧ n ≠ m ++ ".retry" ∧ n ≠ m ++ ".dead" := by
  have cancel : ∀ x y : String, p ++ "." ++ x = p ++ "." ++ y ↔ x = y :=
    fun x y => String.append_right_inj _
  have suffix : ∀ x y z : String, p ++ "." ++ x = p ++ "." ++ y ++ z ↔ x = y ++ z := by
    intro x y z
    have assoc : p ++ "." ++ y ++ z = p ++ "." ++ (y ++ z) := String.append_assoc
    rw [assoc, cancel]
  constructor
  · intro apart
    refine ⟨?_, ⟨?_, ?_⟩, ?_, ?_⟩
    · rintro rfl
      exact apart .work .work _ rfl rfl
    · rintro rfl
      exact apart .work .retry _ rfl (congrArg some ((suffix _ n _).2 rfl).symm)
    · rintro rfl
      exact apart .work .deadLetter _ rfl (congrArg some ((suffix _ n _).2 rfl).symm)
    · rintro rfl
      exact apart .retry .work _ rfl (congrArg some ((suffix _ m _).2 rfl))
    · rintro rfl
      exact apart .deadLetter .work _ rfl (congrArg some ((suffix _ m _).2 rfl))
  · rintro ⟨names, ⟨retry, dead⟩, retry', dead'⟩
    have rd := retry_ne_dead (p ++ "." ++ m) (p ++ "." ++ n)
    have dr := retry_ne_dead (p ++ "." ++ n) (p ++ "." ++ m)
    have left : ∀ z : String, p ++ "." ++ m ++ z ≠ p ++ "." ++ n ++ z := by
      intro z same
      exact names ((cancel m n).1 ((String.append_left_inj z).1 same))
    intro k l name first second
    cases k <;> cases l <;> simp only [storeName] at first second <;> grind

end Stores

section Brokers

variable {a b : Route}

theorem rabbitMqName_eq (config : RabbitMqQueueConfig) (route : Route) :
    rabbitMqName config route = storeName config.queuePrefix route.name := by
  funext k
  cases k <;> rfl

theorem rabbitMqName_own (config : RabbitMqQueueConfig) (route : Route) :
    OwnNamesApart (rabbitMqName config route) := by
  rw [rabbitMqName_eq]
  exact storeName_own _ _

theorem unsuffixed_iff : Unsuffixed a b ↔
    (a.name ≠ b.name ++ ".retry" ∧ a.name ≠ b.name ++ ".dead") ∧
      b.name ≠ a.name ++ ".retry" ∧ b.name ≠ a.name ++ ".dead" := by
  simp only [Unsuffixed, Suffixed, not_or, ne_eq]

theorem rabbitMq_isolated_iff (config : RabbitMqQueueConfig) :
    RoutesIsolated (rabbitMqName config) a b ↔ a.name ≠ b.name ∧ Unsuffixed a b := by
  constructor
  · intro isolated
    have apart := isolated.apart
    rw [rabbitMqName_eq, rabbitMqName_eq, storeName_apart_iff, ← unsuffixed_iff] at apart
    exact apart
  · intro apart
    refine ⟨rabbitMqName_own config a, rabbitMqName_own config b, ?_⟩
    rw [rabbitMqName_eq, rabbitMqName_eq, storeName_apart_iff, ← unsuffixed_iff]
    exact apart

/-- The stores of a route together with its consumer. -/
def withConsumer (consumer : String) (stores : RouteStore → Option String) :
    RouteStore → Option String :=
  fun k => if k = .consumer then some consumer else stores k

/-- The stores have a dot in their names, and there is no consumer among them. -/
structure Dotted (stores : RouteStore → Option String) : Prop where
  dots : ∀ k name, stores k = some name → '.' ∈ name.toList
  stores : stores .consumer = none

section Consumers

variable {consumer consumer' : String} {stores stores' : RouteStore → Option String}

theorem withConsumer_own (dotted : Dotted stores) (dotless : '.' ∉ consumer.toList)
    (own : OwnNamesApart stores) : OwnNamesApart (withConsumer consumer stores) := by
  intro k l name first second
  have apart := own k l name
  have left := dotted.dots k name
  have right := dotted.dots l name
  simp only [withConsumer] at first second
  grind

theorem withConsumer_apart_iff (dotted : Dotted stores) (dotted' : Dotted stores')
    (dotless : '.' ∉ consumer.toList) (dotless' : '.' ∉ consumer'.toList) :
    NamesApart (withConsumer consumer stores) (withConsumer consumer' stores') ↔
      consumer ≠ consumer' ∧ NamesApart stores stores' := by
  constructor
  · intro apart
    constructor
    · rintro rfl
      exact apart .consumer .consumer consumer rfl rfl
    · intro k l name first second
      have here := apart k l name
      have consumers := dotted.stores
      have consumers' := dotted'.stores
      simp only [withConsumer] at here
      grind
  · rintro ⟨ne, apart⟩ k l name first second
    have here := apart k l name
    have left := dotted.dots k name
    have right := dotted'.dots l name
    simp only [withConsumer] at first second
    grind

end Consumers

theorem sanitizeConsumerName_append (c n : String) (sep : String) (dotless : '.' ∉ sep.toList) :
    '.' ∉ (sanitizeConsumerName c ++ sep ++ sanitizeConsumerName n).toList := by
  have front := dot_notMem_sanitizeConsumerName c
  have back := dot_notMem_sanitizeConsumerName n
  simp [front, back, dotless]

/-- The names of a consumer group, of which only the last part depends on the route. -/
theorem consumer_ne_iff {c sep m n : String} :
    c ++ sep ++ sanitizeConsumerName m ≠ c ++ sep ++ sanitizeConsumerName n ↔
      sanitizeConsumerName m ≠ sanitizeConsumerName n := by
  rw [ne_eq, String.append_right_inj]

theorem redisName_eq (config : RedisStreamsQueueConfig) (route : Route) :
    redisName config route = withConsumer (sanitizeConsumerName config.consumerGroupPrefix ++ ":" ++
      sanitizeConsumerName route.name) (storeName config.streamPrefix route.name) := by
  funext k
  cases k <;> rfl

theorem storeName_dotted (p n : String) : Dotted (storeName p n) where
  dots k name named := by
    cases k <;> simp only [storeName, Option.some.injEq, reduceCtorEq] at named <;> subst named <;>
      simp
  stores := rfl

theorem redisName_own (config : RedisStreamsQueueConfig) (route : Route) :
    OwnNamesApart (redisName config route) := by
  rw [redisName_eq]
  exact withConsumer_own (storeName_dotted _ _) (sanitizeConsumerName_append _ _ ":" (by decide))
    (storeName_own _ _)

theorem redis_isolated_iff (config : RedisStreamsQueueConfig) :
    RoutesIsolated (redisName config) a b ↔
      sanitizeConsumerName a.name ≠ sanitizeConsumerName b.name ∧ Unsuffixed a b := by
  have dotless := fun n => sanitizeConsumerName_append config.consumerGroupPrefix n ":" (by decide)
  have apart : NamesApart (redisName config a) (redisName config b) ↔
      sanitizeConsumerName a.name ≠ sanitizeConsumerName b.name ∧
        a.name ≠ b.name ∧ Unsuffixed a b := by
    rw [redisName_eq, redisName_eq, withConsumer_apart_iff (storeName_dotted _ _)
      (storeName_dotted _ _) (dotless _) (dotless _), consumer_ne_iff, storeName_apart_iff,
      unsuffixed_iff]
  constructor
  · intro isolated
    obtain ⟨consumers, -, unsuffixed⟩ := apart.1 isolated.apart
    exact ⟨consumers, unsuffixed⟩
  · rintro ⟨consumers, unsuffixed⟩
    have names : a.name ≠ b.name := fun same => consumers (congrArg sanitizeConsumerName same)
    exact ⟨redisName_own config a, redisName_own config b,
      apart.2 ⟨consumers, names, unsuffixed⟩⟩

/-! ### Subjects of NATS -/

/-- A subject prefix that consists of segments `dlq` alone. -/
def AllDlq (prefix_ : String) : Prop :=
  ∃ n, (prefix_ ++ ".").toList = (List.replicate n "dlq.".toList).flatten

theorem dlq_toList : "dlq.".toList = ['d', 'l', 'q', '.'] := rfl

/-- A word that ends with a dot and goes on as if `dlq.` stood in front of it is made of `dlq.`
alone. The induction takes one `dlq.` away at a time. -/
theorem eq_dlq_of_append_eq (x u v : List Char) (dot : x.getLast? = some '.')
    (same : x ++ u = "dlq.".toList ++ (x ++ v)) :
    (∃ n, x = (List.replicate n "dlq.".toList).flatten) ∧ u = "dlq.".toList ++ v := by
  rw [dlq_toList] at same ⊢
  induction length : x.length using Nat.strong_induction_on generalizing x with
  | _ k ih =>
    match x with
    | [] => cases dot
    | [_] | [_, _] | [_, _, _] =>
      cases same
      cases dot
    | c :: d :: e :: f :: rest =>
      simp only [List.cons_append, List.nil_append, List.cons.injEq] at same
      obtain ⟨rfl, rfl, rfl, rfl, same⟩ := same
      cases rest with
      | nil => exact ⟨⟨1, rfl⟩, same⟩
      | cons g rest =>
        have shorter : (g :: rest).length < k := by simp only [List.length_cons] at length ⊢; omega
        have dotted : (g :: rest).getLast? = some '.' := by simpa using dot
        obtain ⟨⟨n, made⟩, back⟩ := ih _ shorter (g :: rest) dotted same rfl
        refine ⟨⟨n + 1, ?_⟩, back⟩
        rw [List.replicate_succ, List.flatten_cons, ← made]
        rfl

theorem append_replicate_comm (n : Nat) (w : List Char) :
    (List.replicate n w).flatten ++ w = w ++ (List.replicate n w).flatten := by
  induction n with
  | zero => simp
  | succ n ih => rw [List.replicate_succ, List.flatten_cons, List.append_assoc, ih]

/-- A subject of one route is the dead-letter subject of another one only under a prefix that is
itself made of `dlq`. -/
theorem subject_eq_iff (s m n : String) : s ++ "." ++ m = "dlq." ++ s ++ "." ++ n ↔
    AllDlq s ∧ m = "dlq." ++ n := by
  have lists : s ++ "." ++ m = "dlq." ++ s ++ "." ++ n ↔
      (s ++ ".").toList ++ m.toList = "dlq.".toList ++ ((s ++ ".").toList ++ n.toList) := by
    rw [← String.toList_inj]
    simp only [String.toList_append, List.append_assoc]
  rw [lists, AllDlq]
  constructor
  · intro same
    obtain ⟨made, back⟩ := eq_dlq_of_append_eq _ _ _ (by simp) same
    refine ⟨made, String.toList_injective ?_⟩
    rw [back, String.toList_append]
  · rintro ⟨⟨k, made⟩, rfl⟩
    rw [made, String.toList_append, ← List.append_assoc, append_replicate_comm, List.append_assoc]

/-- The subjects of a route in NATS. -/
def subjectName (s n : String) : RouteStore → Option String
  | .work => some (s ++ "." ++ n)
  | .deadLetter => some ("dlq." ++ s ++ "." ++ n)
  | .retry | .consumer => none

theorem natsName_eq (config : NatsQueueConfig) (route : Route) :
    natsName config route = withConsumer (sanitizeConsumerName config.consumerPrefix ++ "_" ++
      sanitizeConsumerName route.name) (subjectName config.subjectPrefix route.name) := by
  funext k
  cases k <;> rfl

theorem subjectName_dotted (s n : String) : Dotted (subjectName s n) where
  dots k name named := by
    cases k <;> simp only [subjectName, Option.some.injEq, reduceCtorEq] at named <;>
      subst named <;> simp
  stores := rfl

theorem subjectName_own (s n : String) : OwnNamesApart (subjectName s n) := by
  have dead : "dlq." ++ s ++ "." ++ n ≠ s ++ "." ++ n := by
    intro same
    have lengths := congrArg String.length same
    simp only [String.length_append] at lengths
    have four : "dlq.".length = 4 := rfl
    omega
  intro k l name first second
  cases k <;> cases l <;> simp only [subjectName] at first second <;> grind

/-- No subject of one route is the dead-letter subject of the other. -/
def SubjectsApart (s : String) (a b : Route) : Prop :=
  AllDlq s → a.name ≠ "dlq." ++ b.name ∧ b.name ≠ "dlq." ++ a.name

theorem subjectName_apart_iff (s : String) : NamesApart (subjectName s a.name)
    (subjectName s b.name) ↔ a.name ≠ b.name ∧ SubjectsApart s a b := by
  have work : ∀ x y : String, s ++ "." ++ x = s ++ "." ++ y ↔ x = y :=
    fun x y => String.append_right_inj _
  have dead : ∀ x y : String, "dlq." ++ s ++ "." ++ x = "dlq." ++ s ++ "." ++ y ↔ x = y :=
    fun x y => String.append_right_inj _
  have cross := subject_eq_iff s a.name b.name
  have cross' := subject_eq_iff s b.name a.name
  rw [SubjectsApart]
  constructor
  · intro apart
    have subjects := apart .work .work _ rfl
    have first := apart .work .deadLetter _ rfl
    have second := apart .deadLetter .work _ rfl
    simp only [subjectName, ne_eq, Option.some.injEq] at subjects first second
    grind
  · rintro ⟨names, crossed⟩ k l name first second
    cases k <;> cases l <;> simp only [subjectName] at first second <;> grind

theorem natsName_own (config : NatsQueueConfig) (route : Route) :
    OwnNamesApart (natsName config route) := by
  rw [natsName_eq]
  exact withConsumer_own (subjectName_dotted _ _) (sanitizeConsumerName_append _ _ "_" (by decide))
    (subjectName_own _ _)

theorem nats_isolated_iff (config : NatsQueueConfig) :
    RoutesIsolated (natsName config) a b ↔
      sanitizeConsumerName a.name ≠ sanitizeConsumerName b.name ∧
        SubjectsApart config.subjectPrefix a b := by
  have dotless := fun n => sanitizeConsumerName_append config.consumerPrefix n "_" (by decide)
  have apart : NamesApart (natsName config a) (natsName config b) ↔
      sanitizeConsumerName a.name ≠ sanitizeConsumerName b.name ∧
        a.name ≠ b.name ∧ SubjectsApart config.subjectPrefix a b := by
    rw [natsName_eq, natsName_eq, withConsumer_apart_iff (subjectName_dotted _ _)
      (subjectName_dotted _ _) (dotless _) (dotless _), consumer_ne_iff, subjectName_apart_iff]
  constructor
  · intro isolated
    obtain ⟨consumers, -, subjects⟩ := apart.1 isolated.apart
    exact ⟨consumers, subjects⟩
  · rintro ⟨consumers, subjects⟩
    have names : a.name ≠ b.name := fun same => consumers (congrArg sanitizeConsumerName same)
    exact ⟨natsName_own config a, natsName_own config b, apart.2 ⟨consumers, names, subjects⟩⟩

end Brokers

/-- When the names that the three brokers derive for two routes are different: the names of the
routes, as consumers know them where there are consumers, have to differ, and neither may be the
other one with something of the broker's own around it. -/
theorem route_isolation_iff (a b : Route) :
    (∀ config, RoutesIsolated (rabbitMqName config) a b ↔ a.name ≠ b.name ∧ Unsuffixed a b) ∧
    (∀ config, RoutesIsolated (natsName config) a b ↔
      sanitizeConsumerName a.name ≠ sanitizeConsumerName b.name ∧
        SubjectsApart config.subjectPrefix a b) ∧
    ∀ config, RoutesIsolated (redisName config) a b ↔
      sanitizeConsumerName a.name ≠ sanitizeConsumerName b.name ∧ Unsuffixed a b :=
  ⟨rabbitMq_isolated_iff, nats_isolated_iff, redis_isolated_iff⟩

/-- A lane may hold the separator: these two routes have one name. -/
theorem routes_collide :
    (("judge", "cpu.fast") : Route) ≠ ("judge.cpu", "fast") ∧
    (∀ config, ¬ RoutesIsolated (rabbitMqName config) ("judge", "cpu.fast") ("judge.cpu", "fast")) ∧
    (∀ config, ¬ RoutesIsolated (natsName config) ("judge", "cpu.fast") ("judge.cpu", "fast")) ∧
    ∀ config, ¬ RoutesIsolated (redisName config) ("judge", "cpu.fast") ("judge.cpu", "fast") := by
  have same : Route.name ("judge", "cpu.fast") = Route.name ("judge.cpu", "fast") := by
    decide +kernel
  refine ⟨by decide, ?_, ?_, ?_⟩
  · intro config isolated
    exact ((rabbitMq_isolated_iff config).1 isolated).1 same
  · intro config isolated
    exact ((nats_isolated_iff config).1 isolated).1 (congrArg sanitizeConsumerName same)
  · intro config isolated
    exact ((redis_isolated_iff config).1 isolated).1 (congrArg sanitizeConsumerName same)

end NexusCore.Runtime
