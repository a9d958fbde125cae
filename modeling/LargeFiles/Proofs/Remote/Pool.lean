import LargeFiles.Proofs.Remote.Twins
import Mathlib.Data.Set.Card

/-!
# What pools keep

A pool keeps one connection for each principal that it has served and has not been told to forget
since, and hands out no connection but the principal's own.  So a connection is never that of
another principal, whatever was asked of the pool in between.

* `PoolCall`, `Pool.Served`             what is asked of a pool, and whom it has served since;
* `Pool.served_concat`                  what one call changes in that;
* `Pool.joined`                         whom a pool keeps once it was asked for one more;
* `Pool.exists_later_eq_keeping`        what is kept after some calls;
* `Pool.size_connection_connection`     two principals count each for itself;
* `Endpoint.exists_withoutSlashes`      the address without the slashes at its end;
* `pool_keeps_own_connections`          what a pool keeps, hands out and forgets.
-/

namespace LargeFiles.Remote

/-- An address is what stands before the slashes at its end, and these. -/
theorem Endpoint.exists_withoutSlashes (address : String) :
    ∃ n, address = withoutSlashes address ++ String.ofList (List.replicate n '/') ∧
      (withoutSlashes address).toList.getLast? ≠ some '/' := by
  have shape : (withoutSlashes address).toList = address.toList.rdropWhile (· == '/') :=
    String.toList_ofList
  obtain ⟨slashes, all, parts⟩ := Http.Url.exists_slashes address
  refine ⟨slashes.length, String.toList_injective ?_, fun last => ?_⟩
  · rw [String.toList_append, shape, String.toList_ofList, ← List.eq_replicate_of_mem all]
    exact parts
  · rw [shape] at last
    -- If the last character were a slash, it would have been dropped as well.
    have slash := List.rdropWhile_last_not (· == '/') address.toList
      (List.ne_nil_of_mem (List.mem_of_getLast? last))
    rw [List.getLast?_eq_some_getLast (List.ne_nil_of_mem (List.mem_of_getLast? last)),
      Option.some.injEq] at last
    exact slash (beq_iff_eq.2 last)

/-- What is asked of a pool. -/
inductive PoolCall
  | connection (who : Principal)
  | forget (who : Principal)

namespace Pool

/-- The pool after a call. -/
def next (pool : Pool) : PoolCall → Pool
  | .connection who => (pool.connection who).2
  | .forget who => pool.forget who

/-- The pool after some calls. -/
def later (pool : Pool) (calls : List PoolCall) : Pool := calls.foldl next pool

@[simp] theorem later_append (pool : Pool) (calls rest : List PoolCall) :
    pool.later (calls ++ rest) = (pool.later calls).later rest := List.foldl_append

/-- One of the calls handed a connection to the principal, and none after it dropped that. -/
def Served (config : Config) (calls : List PoolCall) (who : Principal) : Prop :=
  ∃ before after, calls = before ++ .connection who :: after ∧ .forget who ∉ after ∧
    ∃ c, (((ofConfig config).later before).connection who).1 = .ok c

variable {config : Config} {calls : List PoolCall} {who other : Principal}

/-! ### One more call -/

theorem not_served_nil : ¬Served config [] who := by
  rintro ⟨before, after, all, -⟩
  exact List.append_ne_nil_of_right_ne_nil before (List.cons_ne_nil _ after) all.symm

/-- Whoever is served after one more call was served before it and is not forgotten by it, or is
    served by it. -/
theorem served_concat {call : PoolCall} :
    Served config (calls ++ [call]) who ↔
      (Served config calls who ∧ call ≠ .forget who) ∨
      (call = .connection who ∧
        ∃ c, (((ofConfig config).later calls).connection who).1 = .ok c) := by
  constructor
  -- The last call is the one that served, or it came later and did not forget.
  · rintro ⟨before, after, all, kept, served⟩
    rcases List.eq_nil_or_concat after with rfl | ⟨after, last, rfl⟩
    · obtain ⟨rfl, single⟩ := List.append_inj' all rfl
      exact .inr ⟨List.singleton_inj.1 single, served⟩
    · rw [List.concat_eq_append] at all kept
      have ends : calls ++ [call] = (before ++ .connection who :: after) ++ [last] := by
        simpa using all
      obtain ⟨rfl, single⟩ := List.append_inj' ends rfl
      obtain rfl := List.singleton_inj.1 single
      rw [List.mem_append, not_or, List.mem_singleton] at kept
      exact .inl ⟨⟨before, after, rfl, kept.1, served⟩, Ne.symm kept.2⟩
  · rintro (⟨⟨before, after, rfl, kept, served⟩, other⟩ | ⟨rfl, served⟩)
    · refine ⟨before, after ++ [call], by simp, ?_, served⟩
      rw [List.mem_append, not_or, List.mem_singleton]
      exact ⟨kept, Ne.symm other⟩
    · exact ⟨calls, [], rfl, List.not_mem_nil, served⟩

/-! ### What is kept -/

/-- The principals that a pool keeps connections of once it was asked for one more. -/
def joined (config : Config) (names : List Principal) (who : Principal) : List Principal :=
  if who ∈ names ∨ Http.Header.isLegalValue config.userAgent = false then names
  else names ++ [who]

variable {names : List Principal}

/-- Whoever is kept was kept before, or has joined with a legal user agent. -/
theorem mem_joined : other ∈ joined config names who ↔
    other ∈ names ∨ (other = who ∧ Http.Header.isLegalValue config.userAgent = true) := by
  unfold joined
  split
  · next h =>
    refine ⟨.inl, fun mem => mem.elim id ?_⟩
    rintro ⟨rfl, legal⟩
    exact h.resolve_right (by simp [legal])
  · next h => simp_all

/-- Nobody is kept twice. -/
theorem nodup_joined (distinct : names.Nodup) : (joined config names who).Nodup := by
  unfold joined
  split
  · exact distinct
  · next h =>
    have fresh : who ∉ names := fun mem => h (.inl mem)
    exact List.concat_eq_append ▸ distinct.concat fresh

theorem filter_eq_self (unknown : who ∉ names) : names.filter (· != who) = names :=
  List.filter_eq_self.2 fun _ mem => bne_iff_ne.2 fun same => unknown (same ▸ mem)

/-- What was asked for counts once, whether it was kept before or not. -/
theorem length_joined (legal : Http.Header.isLegalValue config.userAgent = true)
    (distinct : names.Nodup) :
    (joined config names who).length = (names.filter (· != who)).length + 1 := by
  unfold joined
  by_cases known : who ∈ names
  · rw [if_pos (.inl known), ← distinct.erase_eq_filter, List.length_erase_of_mem known]
    exact (Nat.sub_add_cancel (List.length_pos_of_mem known)).symm
  · rw [if_neg (by simp [known, legal]), filter_eq_self known, List.length_append,
      List.length_singleton]

/-- A pool answers with the principal's connection if it keeps it, or can open it. -/
theorem fst_connection_keeping (config : Config) (names : List Principal) (who : Principal) :
    ((keeping config names).connection who).1 =
      if who ∈ names ∨ Http.Header.isLegalValue config.userAgent = true then
        .ok (connectionOf config who)
      else .error (.http config.url) := by
  rw [connection_keeping]
  by_cases known : who ∈ names
  · rw [if_pos known, if_pos (.inl known)]
  · rw [if_neg known]
    split
    · next legal => rw [if_pos (.inr legal)]
    · next illegal => rw [if_neg (by simp [known, illegal])]

/-- A pool keeps whoever joins it. -/
theorem snd_connection_keeping (config : Config) (names : List Principal) (who : Principal) :
    ((keeping config names).connection who).2 = keeping config (joined config names who) := by
  rw [connection_keeping, joined]
  by_cases known : who ∈ names
  · rw [if_pos known, if_pos (.inl known)]
  · rw [if_neg known]
    split
    · next legal => rw [if_neg (by simp [known, legal])]
    · next illegal => rw [if_pos (by simp [illegal])]

/-- There is a connection for those who are kept, and for all if the user agent is legal. -/
theorem exists_connection_keeping :
    (∃ c, ((keeping config names).connection who).1 = .ok c) ↔
      who ∈ names ∨ Http.Header.isLegalValue config.userAgent = true := by
  rw [fst_connection_keeping]
  split
  · next h => exact iff_of_true ⟨_, rfl⟩ h
  · next h => exact iff_of_false (by rintro ⟨c, ⟨⟩⟩) h

/-- What is handed out is the principal's own connection. -/
theorem eq_connectionOf {c : Connection} (h : ((keeping config names).connection who).1 = .ok c) :
    c = connectionOf config who := by
  rw [fst_connection_keeping] at h
  split at h
  · exact (Except.ok.inj h).symm
  · cases h

/-- To forget a principal is no concern of another. -/
theorem mem_filter_ne_iff (apart : other ≠ who) :
    other ∈ names.filter (· != who) ↔ other ∈ names := by
  simp [apart]

/-- To ask for one principal and to forget another can be done in any order. -/
theorem filter_joined (apart : other ≠ who) :
    (joined config names who).filter (· != other) =
      joined config (names.filter (· != other)) who := by
  have stays : [who].filter (· != other) = [who] := by
    simp [Ne.symm apart]
  simp only [joined, mem_filter_ne_iff (Ne.symm apart)]
  split
  · rfl
  · rw [List.filter_append, stays]

theorem size_keeping (config : Config) (names : List Principal) :
    (keeping config names).size = names.length := by
  rw [size, keeping, List.length_map]

/-- Two principals that are different count each for itself. -/
theorem size_connection_connection (legal : Http.Header.isLegalValue config.userAgent = true)
    (distinct : names.Nodup) (apart : other ≠ who) :
    (((keeping config names).connection who).2.connection other).2.size =
      (((keeping config names).forget who).forget other).size + 2 := by
  rw [snd_connection_keeping, snd_connection_keeping, forget_keeping, forget_keeping, size_keeping,
    size_keeping, length_joined legal (nodup_joined distinct), filter_joined apart,
    length_joined legal (distinct.filter _), List.filter_comm]

/-- What is kept after some calls: a connection for everybody who has been served since he was last
    forgotten, and for nobody else. -/
theorem exists_later_eq_keeping (config : Config) (calls : List PoolCall) :
    ∃ names : List Principal, names.Nodup ∧ (ofConfig config).later calls = keeping config names ∧
      (∀ who, who ∈ names ↔ Served config calls who) ∧
      (Http.Header.isLegalValue config.userAgent = false → names = []) := by
  -- Induction on the last call, since forgetting concerns what came before.
  induction calls using List.reverseRecOn with
  | nil =>
    exact ⟨[], List.nodup_nil, rfl, fun who => iff_of_false List.not_mem_nil not_served_nil,
      fun _ => rfl⟩
  | append_singleton calls call ih =>
    obtain ⟨names, distinct, kept, served, nobody⟩ := ih
    have last : (ofConfig config).later (calls ++ [call]) = (keeping config names).next call := by
      rw [later_append, kept]
      rfl
    rw [last]
    simp only [served_concat, kept, ← served]
    -- Asking adds a name at most, and forgetting takes out one.
    cases call with
    | connection name =>
      rw [next, snd_connection_keeping]
      refine ⟨_, nodup_joined distinct, rfl, fun who => ?_, fun illegal => ?_⟩
      · simp only [exists_connection_keeping, mem_joined, PoolCall.connection.injEq]
        grind
      · rw [joined, if_pos (.inr illegal), nobody illegal]
    | forget name =>
      rw [next, forget_keeping]
      refine ⟨_, distinct.filter _, rfl, fun who => ?_, fun illegal => ?_⟩
      · simp only [List.mem_filter, bne_iff_ne]
        grind
      · rw [nobody illegal, List.filter_nil]

end Pool

/-- What a pool keeps, hands out and forgets once some calls were made. -/
structure Pool.KeepsOwn (config : Config) (calls : List PoolCall) (pool : Pool) : Prop where
  /-- Something is kept for those who have been served since they were last forgotten. -/
  kept : ∀ who, (pool.kept.lookup who).isSome ↔ Served config calls who
  /-- No principal counts twice. -/
  size : {who | Served config calls who}.encard = pool.size
  /-- A user with the login name of the anonymous principal counts for himself. -/
  apart : Http.Header.isLegalValue config.userAgent = true →
    let namesake := Principal.user Principal.anonymous.login
    ((pool.connection .anonymous).2.connection namesake).2.size =
      ((pool.forget .anonymous).forget namesake).size + 2
  /-- Whatever is handed out shows the credentials of the principal it is handed to. -/
  credentials : ∀ who c, (pool.connection who).1 = .ok c → c.credentials = config.credentialsFor who
  /-- It leads to the address of the configuration, without the slashes at its end. -/
  address : ∀ who c, (pool.connection who).1 = .ok c →
    (∃ n, config.url = c.baseUrl ++ String.ofList (List.replicate n '/')) ∧
      c.baseUrl.toList.getLast? ≠ some '/'
  /-- A user agent that is a legal header lets everybody have a connection. -/
  opens : Http.Header.isLegalValue config.userAgent = true →
    ∀ who, ∃ c, (pool.connection who).1 = .ok c
  /-- Any other lets nobody have one, and nothing is ever kept. -/
  fails : Http.Header.isLegalValue config.userAgent = false →
    pool.size = 0 ∧ ∀ who, pool.connection who = (.error (.http config.url), pool)
  /-- To forget somebody for whom nothing is kept changes nothing. -/
  unknown : ∀ who, pool.kept.lookup who = none → pool.forget who = pool
  /-- To forget somebody is no concern of anybody else. -/
  others : ∀ who other, other ≠ who →
    (pool.forget who).kept.lookup other = pool.kept.lookup other ∧
      ((pool.forget who).connection other).1 = (pool.connection other).1

/-- Whatever was asked of a pool, a principal is handed a connection of his own, which is kept until
    he is forgotten and for nobody else. -/
theorem pool_keeps_own_connections (config : Config) (calls : List PoolCall) :
    ((Pool.ofConfig config).later calls).KeepsOwn config calls := by
  -- Of all that was called for only the names of those who are kept matter.
  obtain ⟨names, distinct, pool, served, nobody⟩ := Pool.exists_later_eq_keeping config calls
  rw [pool]
  constructor
  case kept =>
    intro who
    rw [Pool.lookup_keeping, ← served]
    split
    · next known => exact iff_of_true rfl known
    · next unknown => exact iff_of_false Bool.false_ne_true unknown
  case size =>
    -- Those who are kept are the names of a list without repetitions, and can be counted.
    have all : {who | Pool.Served config calls who} = (names.toFinset : Set Principal) := by
      ext who
      rw [Set.mem_ofPred_eq, ← served, List.coe_toFinset, Set.mem_ofPred_eq]
    rw [all, Set.encard_coe_eq_coe_finsetCard, List.toFinset_card_of_nodup distinct,
      Pool.size_keeping]
  case apart =>
    intro legal
    exact Pool.size_connection_connection legal distinct (by decide)
  case credentials =>
    intro who c given
    rw [Pool.eq_connectionOf given]
    rfl
  case address =>
    intro who c given
    rw [Pool.eq_connectionOf given]
    obtain ⟨n, parts, last⟩ := Endpoint.exists_withoutSlashes config.url
    exact ⟨⟨n, parts⟩, last⟩
  case opens =>
    intro legal who
    exact Pool.exists_connection_keeping.2 (.inr legal)
  case fails =>
    intro illegal
    obtain rfl := nobody illegal
    refine ⟨rfl, fun who => ?_⟩
    rw [Pool.connection_keeping, if_neg List.not_mem_nil, if_neg (by simp [illegal])]
  case unknown =>
    intro who absent
    rw [Pool.lookup_keeping] at absent
    split at absent
    · cases absent
    · next unknown => rw [Pool.forget_keeping, Pool.filter_eq_self unknown]
  case others =>
    intro who other apart
    rw [Pool.forget_keeping, Pool.lookup_keeping, Pool.lookup_keeping, Pool.fst_connection_keeping,
      Pool.fst_connection_keeping]
    simp only [Pool.mem_filter_ne_iff apart, and_self]

/-- The anonymous principal and a user with the same login name, of whom one is forgotten. -/
example :
    let pool := (Pool.ofConfig Config.standard).later
      [.connection .anonymous, .connection (.user "$anonymous"), .connection .anonymous]
    pool.size = 2 ∧ (pool.forget .anonymous).size = 1 := by decide

end LargeFiles.Remote
