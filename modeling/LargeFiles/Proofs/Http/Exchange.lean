import LargeFiles.Http.Network
import LargeFiles.Proofs.Session
import Mathlib.Data.List.Basic

/-!
# Exchanges over the network

What a client does on the network is a list of exchanges: requests in the order in which they were
sent, each with the response that was to come.  `Converses` says of a session which lists of
exchanges it can make and what comes out after each; nothing else is sent.

* `Network.Exchanges.append`   some exchanges after others;
* `Converses.bind`             one session after another;
* `Converses.tryCatch`         a session with another to fall back on;
* `Converses.onPart`           a session on a network that is part of a state;
* `Converses.mapM`             a session for each element of a list, until the first failure.
-/

namespace LargeFiles

namespace Http

/-- A request that was sent, and the response to it if its status arrived. -/
structure Exchange where
  request : Request
  response : Option Response
  deriving DecidableEq

namespace Network

/-- The response to the request that is sent after `n` others. -/
def response (network : Network) (n : Nat) : Option Response :=
  receive (network.replies.getD n .exhausted)

/-- From one state of the network to another the exchanges are made, in their order, and no
    others. -/
structure Exchanges (network : Network) (log : List Exchange) (after : Network) : Prop where
  reachable : after.reachable = network.reachable
  replies : after.replies = network.replies.drop log.length
  sent : after.sent = network.sent ++ log.map (·.request)
  answered : ∀ n exchange, log[n]? = some exchange → exchange.response = network.response n

namespace Exchanges

variable {network middle after : Network} {log log' : List Exchange}

/-- Without requests nothing is exchanged. -/
theorem nil (network : Network) : network.Exchanges [] network where
  reachable := rfl
  replies := rfl
  sent := (List.append_nil _).symm
  answered n exchange found := by simp at found

/-- What is to come after some exchanges. -/
theorem response_eq (h : network.Exchanges log after) (n : Nat) :
    after.response n = network.response (log.length + n) := by
  simp only [response, h.replies, List.getD_eq_getElem?_getD, List.getElem?_drop]

/-- Some exchanges after others. -/
theorem append (first : network.Exchanges log middle) (second : middle.Exchanges log' after) :
    network.Exchanges (log ++ log') after where
  reachable := second.reachable.trans first.reachable
  replies := by
    rw [second.replies, first.replies, List.drop_drop, List.length_append]
  sent := by
    rw [second.sent, first.sent, List.map_append, List.append_assoc]
  answered n exchange found := by
    -- The second exchanges begin where the first ones ended, and count from there.
    rw [List.getElem?_append] at found
    split at found
    · exact first.answered n exchange found
    · next before =>
      have place : log.length + (n - log.length) = n := by omega
      rw [second.answered _ exchange found, first.response_eq, place]

end Exchanges

/-- On a network that is within reach, a request is exchanged for the next response. -/
theorem exchanges_exchange {network : Network} (reachable : network.reachable = true)
    (request : Request) :
    network.Exchanges [⟨request, (network.exchange request).1⟩] (network.exchange request).2 where
  reachable := network.reachable_exchange request
  replies := by
    rw [replies_exchange, if_pos reachable, List.length_singleton, List.drop_one]
  sent := by
    rw [sent_exchange, if_pos reachable, List.map_singleton]
  answered n exchange found := by
    obtain ⟨rfl, rfl⟩ : n = 0 ∧ ⟨request, (network.exchange request).1⟩ = exchange := by
      cases n with
      | zero => exact ⟨rfl, Option.some.inj found⟩
      | succ n => simp at found
    -- The response is the head of the script, or what is said when the script has run out.
    rw [exchange, if_pos reachable, response, next]
    cases network.replies <;> rfl

end Network

end Http

namespace Session

open Http (Exchange Network)

variable {σ τ ε α β : Type} {view : σ → Network}

/-- On a network within reach, the session makes exchanges that fit its outcome: `spec` tells
    which. -/
def Converses (s : Session σ ε α) (view : σ → Network)
    (spec : List Exchange → Except ε α → Prop) : Prop :=
  ∀ state, (view state).reachable = true →
    ∃ log, (view state).Exchanges log (view (s.outcome state).2) ∧ spec log (s.outcome state).1

/-! ### Rules -/

namespace Converses

variable {spec : List Exchange → Except ε α → Prop}

theorem pure {a : α} (h : spec [] (.ok a)) : Converses (pure a : Session σ ε α) view spec :=
  fun _ _ => ⟨[], .nil _, h⟩

theorem throw {e : ε} (h : spec [] (.error e)) :
    Converses (throw e : Session σ ε α) view spec :=
  fun _ _ => ⟨[], .nil _, h⟩

theorem ofExcept {result : Except ε α} (h : spec [] result) :
    Converses (Session.ofExcept result : Session σ ε α) view spec :=
  fun _ _ => ⟨[], .nil _, h⟩

/-- What is known of the exchanges may be weakened. -/
theorem imp {s : Session σ ε α} {weaker : List Exchange → Except ε α → Prop}
    (hs : Converses s view spec) (h : ∀ log result, spec log result → weaker log result) :
    Converses s view weaker := by
  intro state reachable
  obtain ⟨log, made, fits⟩ := hs state reachable
  exact ⟨log, made, h log _ fits⟩

/-- A function on what a session gives. -/
theorem map {s : Session σ ε α} {f : α → β} {whole : List Exchange → Except ε β → Prop}
    (hs : Converses s view spec) (h : ∀ log result, spec log result → whole log (result.map f)) :
    Converses (f <$> s) view whole := by
  intro state reachable
  obtain ⟨log, made, fits⟩ := hs state reachable
  rw [outcome_map]
  exact ⟨log, made, h log _ fits⟩

/-- One session after another. -/
theorem bind {s : Session σ ε α} {f : α → Session σ ε β} {whole : List Exchange → Except ε β → Prop}
    (hs : Converses s view spec) (failed : ∀ log e, spec log (.error e) → whole log (.error e))
    (hf : ∀ log a, spec log (.ok a) →
      Converses (f a) view fun log' result => whole (log ++ log') result) :
    Converses (s >>= f) view whole := by
  intro state reachable
  obtain ⟨log, made, fits⟩ := hs state reachable
  rw [outcome_bind]
  revert made fits
  rcases s.outcome state with ⟨e | a, middle⟩ <;> intro made fits
  -- After a failure nothing else is sent.
  · exact ⟨log, made, failed log e fits⟩
  · obtain ⟨log', made', fits'⟩ := hf log a fits middle (made.reachable.trans reachable)
    exact ⟨log ++ log', made.append made', fits'⟩

/-- A session with another to fall back on. -/
theorem tryCatch {s : Session σ ε α} {handle : ε → Session σ ε α}
    {whole : List Exchange → Except ε α → Prop} (hs : Converses s view spec)
    (succeeded : ∀ log a, spec log (.ok a) → whole log (.ok a))
    (hh : ∀ log e, spec log (.error e) →
      Converses (handle e) view fun log' result => whole (log ++ log') result) :
    Converses (tryCatch s handle) view whole := by
  intro state reachable
  obtain ⟨log, made, fits⟩ := hs state reachable
  rw [outcome_tryCatch]
  revert made fits
  rcases s.outcome state with ⟨e | a, middle⟩ <;> intro made fits
  -- What the handler sends comes after what was sent before the error.
  · obtain ⟨log', made', fits'⟩ := hh log e fits middle (made.reachable.trans reachable)
    exact ⟨log ++ log', made.append made', fits'⟩
  · exact ⟨log, made, succeeded log a fits⟩

/-- A session on a network that is part of a state. -/
theorem onPart {s : Session Network ε α} {part : τ → Network} {update : τ → Network → τ}
    (updated : ∀ state network, part (update state network) = network)
    (hs : Converses s id spec) : Converses (s.onPart part update) part spec := by
  intro state reachable
  obtain ⟨log, made, fits⟩ := hs (part state) reachable
  rw [outcome_onPart, updated]
  exact ⟨log, made, fits⟩

end Converses

/-! ### One element after another -/

/-- What was exchanged for one element of a list, and what came of it. -/
structure Turn (ε α β : Type) where
  target : α
  log : List Exchange
  result : Except ε β

/-- The elements of a list are dealt with in turn, until the first failure. -/
inductive InTurn (spec : α → List Exchange → Except ε β → Prop) :
    List α → List (Turn ε α β) → Except ε (List β) → Prop
  | done : InTurn spec [] [] (.ok [])
  | failed {a l log e} (fits : spec a log (.error e)) :
      InTurn spec (a :: l) [⟨a, log, .error e⟩] (.error e)
  | next {a b l log turns result} (fits : spec a log (.ok b)) (rest : InTurn spec l turns result) :
      InTurn spec (a :: l) (⟨a, log, .ok b⟩ :: turns) (result.map (b :: ·))

namespace InTurn

variable {spec : α → List Exchange → Except ε β → Prop} {l : List α} {turns : List (Turn ε α β)}
  {result : Except ε (List β)}

/-- The turns are those of the first elements. -/
theorem targets_prefix (h : InTurn spec l turns result) : turns.map (·.target) <+: l := by
  induction h with
  | done => exact List.prefix_rfl
  | failed => exact (List.prefix_append [_] _)
  | next _ _ ih => exact (List.prefix_cons_inj _).2 ih

/-- Each turn is as it is specified. -/
theorem fits_of_mem (h : InTurn spec l turns result) {turn : Turn ε α β} (mem : turn ∈ turns) :
    spec turn.target turn.log turn.result := by
  induction h with
  | done => cases mem
  -- The turn that failed is the last one.
  | failed fits =>
    cases List.mem_singleton.1 mem
    exact fits
  | next fits _ ih =>
    rcases List.mem_cons.1 mem with rfl | mem
    · exact fits
    · exact ih mem

/-- The result is a success if every element had its turn and none failed. -/
theorem eq_ok_iff (h : InTurn spec l turns result) (bs : List β) :
    result = .ok bs ↔ turns.map (·.target) = l ∧ turns.map (·.result) = bs.map .ok := by
  induction h generalizing bs with
  | done => cases bs <;> simp
  | failed => cases bs <;> simp
  | @next a b l log turns result fits rest ih =>
    cases bs with
    | nil => cases result <;> simp [Except.map]
    | cons c cs =>
      -- The first results are compared on both sides, and the others by the induction.
      have tail := ih cs
      simp only [List.map_cons, List.cons.injEq, true_and, Except.ok.injEq]
      cases result with
      | error e =>
        simp only [reduceCtorEq, false_iff] at tail
        simp only [Except.map, reduceCtorEq, false_iff]
        rintro ⟨targets, rfl, results⟩
        exact tail ⟨targets, results⟩
      | ok ds =>
        simp only [Except.ok.injEq] at tail
        simp only [Except.map, Except.ok.injEq, List.cons.injEq, tail]
        exact ⟨fun ⟨same, targets, results⟩ => ⟨targets, same, results⟩,
          fun ⟨targets, same, results⟩ => ⟨same, targets, results⟩⟩

/-- The same, told by what else shows whether a turn succeeded. -/
theorem eq_ok_iff_of (h : InTurn spec l turns result) (given? : Turn ε α β → Option β)
    (same : ∀ turn ∈ turns, ∀ b, turn.result = .ok b ↔ given? turn = some b) (bs : List β) :
    result = .ok bs ↔ turns.map (·.target) = l ∧ turns.map given? = bs.map some := by
  rw [h.eq_ok_iff, and_congr_right_iff]
  clear h
  rintro -
  -- Turn by turn, the results are those that were picked out.
  induction turns generalizing bs with
  | nil => cases bs <;> simp
  | cons turn turns ih =>
    cases bs with
    | nil => simp
    | cons b bs =>
      simp only [List.map_cons, List.cons.injEq, same turn List.mem_cons_self,
        ih (fun other mem => same other (List.mem_cons_of_mem _ mem))]

/-- Where it can be told from an element and its exchanges whether they succeed, the same tells
    whether all elements do. -/
theorem exists_ok_iff (h : InTurn spec l turns result) {good : α → Prop} {fine : Exchange → Prop}
    (each : ∀ a log result, spec a log result →
      ((∃ b, result = .ok b) ↔ good a ∧ ∀ exchange ∈ log, fine exchange)) :
    (∃ bs, result = .ok bs) ↔
      (∀ a ∈ l, good a) ∧ ∀ exchange ∈ turns.flatMap (·.log), fine exchange := by
  induction h with
  | done => simp
  | failed fits =>
    -- The element that failed is not good, or one of its exchanges is not fine.
    have fails := each _ _ _ fits
    simp only [reduceCtorEq, exists_false, false_iff] at fails ⊢
    rintro ⟨all, exchanges⟩
    rw [List.flatMap_singleton] at exchanges
    exact fails ⟨all _ List.mem_cons_self, exchanges⟩
  | @next a b l log turns result fits rest ih =>
    have first := (each _ _ _ fits).1 ⟨b, rfl⟩
    have same : (∃ bs, result.map (b :: ·) = .ok bs) ↔ ∃ bs, result = .ok bs := by
      cases result <;> simp [Except.map]
    rw [same, ih, List.forall_mem_cons, List.flatMap_cons, List.forall_mem_append]
    exact ⟨fun ⟨goods, others⟩ => ⟨⟨first.1, goods⟩, first.2, others⟩,
      fun ⟨⟨_, goods⟩, _, others⟩ => ⟨goods, others⟩⟩

/-- Where nothing follows an exchange that is not fine in the turn of one element, nothing follows
    one at all. -/
theorem fine_of_mem_dropLast (h : InTurn spec l turns result) {fine : Exchange → Prop}
    (stops : ∀ a log result, spec a log result → ∀ exchange ∈ log.dropLast, fine exchange)
    (each : ∀ a log b, spec a log (.ok b) → ∀ exchange ∈ log, fine exchange) :
    ∀ exchange ∈ (turns.flatMap (·.log)).dropLast, fine exchange := by
  induction h with
  | done => simp
  | failed fits =>
    rw [List.flatMap_singleton]
    exact stops _ _ _ fits
  | @next a b l log turns result fits rest ih =>
    rw [List.flatMap_cons, List.dropLast_append]
    split
    -- The others made no exchange, so the last one is of this turn.
    · exact stops _ _ _ fits
    · exact List.forall_mem_append.2 ⟨each _ _ _ fits, ih⟩

/-- What is picked from the exchanges, where it is known for one element what is picked. -/
theorem filterMap_log {γ : Type} (h : InTurn spec l turns result) {pick : Exchange → Option γ}
    {picked : β → List γ} (each : ∀ a log b, spec a log (.ok b) → log.filterMap pick = picked b)
    {bs : List β} (ok : result = .ok bs) :
    (turns.flatMap (·.log)).filterMap pick = bs.flatMap picked := by
  induction h generalizing bs with
  | done =>
    cases ok
    rfl
  | failed => cases ok
  -- The exchanges of the first turn come before those of the others.
  | @next a b l log turns result fits rest ih =>
    cases result with
    | error e => cases ok
    | ok others =>
      cases ok
      rw [List.flatMap_cons, List.filterMap_append, List.flatMap_cons, ih rfl, each _ _ _ fits]

/-- A turn that failed was the last one, and the result is its failure. -/
theorem eq_error_of_mem (h : InTurn spec l turns result) {turn : Turn ε α β} (mem : turn ∈ turns)
    {e : ε} (failed : turn.result = .error e) : result = .error e := by
  induction h with
  | done => cases mem
  | failed =>
    cases List.mem_singleton.1 mem
    rw [Except.error.injEq] at failed
    rw [failed]
  | next _ _ ih =>
    rcases List.mem_cons.1 mem with rfl | mem
    -- A turn that others followed has not failed.
    · cases failed
    · rw [ih mem]
      rfl

end InTurn

/-- A session for each element of a list, in the order of the list. -/
theorem Converses.mapM {spec : α → List Exchange → Except ε β → Prop} {f : α → Session σ ε β}
    {l : List α} (hf : ∀ a ∈ l, Converses (f a) view (spec a)) :
    Converses (l.mapM f) view fun log result =>
      ∃ turns, log = turns.flatMap (·.log) ∧ InTurn spec l turns result := by
  -- The first target has its turn, and the others follow unless it failed.
  induction l with
  | nil => exact .pure ⟨[], rfl, .done⟩
  | cons a l ih =>
    rw [List.mapM_cons]
    apply (hf a List.mem_cons_self).bind
    · intro log e fits
      exact ⟨[⟨a, log, .error e⟩], (List.append_nil log).symm, .failed fits⟩
    · intro log b fits
      apply (ih fun c mem => hf c (List.mem_cons_of_mem a mem)).bind
      · rintro _ e ⟨turns, rfl, rest⟩
        exact ⟨⟨a, log, .ok b⟩ :: turns, rfl, .next fits rest⟩
      · rintro _ bs ⟨turns, rfl, rest⟩
        refine .pure ⟨⟨a, log, .ok b⟩ :: turns, ?_, .next fits rest⟩
        rw [List.append_nil, List.flatMap_cons]

end Session

end LargeFiles
