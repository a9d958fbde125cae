import LargeFiles.Session

/-!
# What sessions keep

A session keeps an invariant of its states when it ends in a state that satisfies it, whether it
gives a value or fails; `Keeps` says so together with what holds of the value.

* `Keeps.bind`                one session after another;
* `Keeps.tryCatch`            a session with another to fall back on;
* `Keeps.mapError`            replacing errors changes nothing;
* `outcome_onPart`            a session on a part of a state;
* `Yields.bind`               the rule for sessions that are known not to fail;
* `Ends.bind`                 the rule for sessions whose errors leave a trace of their own;
* `Matches.bind`              the rule for two sessions that do the same to related states.
-/

namespace LargeFiles.Session

variable {σ τ ε δ α β : Type} {inv : σ → Prop} {post mid : α → Prop}

/-- Started in a state that satisfies the invariant, the session ends in one, and a value that it
    gives satisfies the postcondition. -/
def Keeps (s : Session σ ε α) (inv : σ → Prop) (post : α → Prop) : Prop :=
  ∀ state, inv state →
    inv (s.outcome state).2 ∧ ∀ a, (s.outcome state).1 = .ok a → post a

/-! ### Outcomes -/

@[simp] theorem outcome_mapError (f : ε → δ) (s : Session σ ε α) (state : σ) :
    (s.mapError f).outcome state = ((s.outcome state).1.mapError f, (s.outcome state).2) := rfl

@[simp] theorem outcome_map (f : α → β) (s : Session σ ε α) (state : σ) :
    (f <$> s).outcome state = ((s.outcome state).1.map f, (s.outcome state).2) := by
  rw [map_eq_pure_bind, outcome_bind]
  rcases s.outcome state with ⟨_ | _, _⟩ <;> rfl

@[simp] theorem outcome_onPart (part : τ → σ) (update : τ → σ → τ) (s : Session σ ε α) (state : τ) :
    (s.onPart part update).outcome state =
      ((s.outcome (part state)).1, update state (s.outcome (part state)).2) := rfl

/-- An error is handled in the state that the failed session has left. -/
theorem outcome_tryCatch (s : Session σ ε α) (handle : ε → Session σ ε α) (state : σ) :
    (tryCatch s handle : Session σ ε α).outcome state =
      match s.outcome state with
      | (.ok a, state) => (.ok a, state)
      | (.error e, state) => (handle e).outcome state := by
  simp only [outcome, tryCatch, tryCatchThe, MonadExceptOf.tryCatch, ExceptT.tryCatch,
    ExceptT.run, ExceptT.mk, StateT.run_bind]
  rcases StateT.run s state with ⟨⟨⟩ | ⟨⟩, _⟩ <;> rfl

/-- What a session gives that consists of two was given by the second, after the first had given
    something too. -/
theorem bind_eq_ok {s : Session σ ε α} {f : α → Session σ ε β} {state : σ} {b : β} :
    ((s >>= f).outcome state).1 = .ok b ↔
      ∃ a, (s.outcome state).1 = .ok a ∧ ((f a).outcome (s.outcome state).2).1 = .ok b := by
  rw [outcome_bind]
  rcases s.outcome state with ⟨e | a, state'⟩
  · simp
  · simp

/-- Changing errors changes no value. -/
theorem mapError_eq_ok {f : ε → δ} {result : Except ε α} {a : α} :
    result.mapError f = .ok a ↔ result = .ok a := by
  cases result with
  | error e => constructor <;> intro h <;> cases h
  | ok b =>
    constructor
    · intro h
      cases h
      rfl
    · intro h
      cases h
      rfl

/-! ### Rules -/

namespace Keeps

theorem pure {a : α} (h : post a) : Keeps (pure a : Session σ ε α) inv post := by
  intro state hinv
  rw [outcome_pure]
  refine ⟨hinv, fun b hb => ?_⟩
  cases hb
  exact h

theorem throw (e : ε) : Keeps (throw e : Session σ ε α) inv post := by
  intro state hinv
  rw [outcome_throw]
  exact ⟨hinv, fun b hb => nomatch hb⟩

/-- What a result satisfies is known of a session that only passes it on. -/
theorem ofExcept {result : Except ε α} (h : ∀ a, result = .ok a → post a) :
    Keeps (Session.ofExcept result : Session σ ε α) inv post := by
  intro state hinv
  exact ⟨hinv, h⟩

/-- One session after another. -/
theorem bind {s : Session σ ε α} {f : α → Session σ ε β} {post : β → Prop} (hs : Keeps s inv mid)
    (hf : ∀ a, mid a → Keeps (f a) inv post) : Keeps (s >>= f) inv post := by
  intro state hinv
  obtain ⟨kept, value⟩ := hs state hinv
  rw [outcome_bind]
  revert kept value
  cases s.outcome state with
  | mk result state' =>
    intro kept value
    cases result with
    -- After an error nothing else is run.
    | error e => exact ⟨kept, fun b hb => nomatch hb⟩
    | ok a => exact hf a (value a rfl) state' kept

/-- A session with another to fall back on. -/
theorem tryCatch {s : Session σ ε α} {handle : ε → Session σ ε α} (hs : Keeps s inv post)
    (hh : ∀ e, Keeps (handle e) inv post) : Keeps (tryCatch s handle) inv post := by
  intro state hinv
  obtain ⟨kept, value⟩ := hs state hinv
  rw [outcome_tryCatch]
  revert kept value
  cases s.outcome state with
  | mk result state' =>
    intro kept value
    cases result with
    | error e => exact hh e state' kept
    | ok a => exact ⟨kept, value⟩

/-- A session for each element of a list, in the order of the list. -/
theorem mapM {f : α → Session σ ε β} {post : α → β → Prop} {l : List α}
    (hf : ∀ a ∈ l, Keeps (f a) inv (post a)) :
    Keeps (l.mapM f) inv fun _ => ∀ a ∈ l, ∃ b, post a b := by
  -- The first element is done, and then the rest in the state that it leaves.
  induction l with
  | nil => exact pure fun a mem => nomatch mem
  | cons a rest ih =>
    rw [List.mapM_cons]
    apply bind (hf a List.mem_cons_self)
    intro b hb
    apply bind (ih fun c mem => hf c (List.mem_cons_of_mem _ mem))
    intro bs others
    apply pure
    intro c mem
    rcases List.mem_cons.1 mem with rfl | mem
    · exact ⟨b, hb⟩
    · exact others c mem

theorem imp {s : Session σ ε α} {post' : α → Prop} (hs : Keeps s inv post)
    (h : ∀ a, post a → post' a) : Keeps s inv post' :=
  fun state hinv => ⟨(hs state hinv).1, fun a ha => h a ((hs state hinv).2 a ha)⟩

/-- Changing errors keeps the invariant. -/
theorem mapError {s : Session σ ε α} (f : ε → δ) (hs : Keeps s inv post) :
    Keeps (s.mapError f) inv post := by
  intro state hinv
  obtain ⟨kept, value⟩ := hs state hinv
  rw [outcome_mapError]
  exact ⟨kept, fun a ha => value a (mapError_eq_ok.1 ha)⟩

/-- A session on a part of a state keeps what the part's invariant gives for the whole. -/
theorem onPart {s : Session σ ε α} {part : τ → σ} {update : τ → σ → τ} {whole : τ → Prop}
    (start : ∀ state, whole state → inv (part state)) (hs : Keeps s inv post)
    (finish : ∀ state changed, whole state → inv changed → whole (update state changed)) :
    Keeps (s.onPart part update) whole post := by
  intro state hwhole
  obtain ⟨kept, value⟩ := hs (part state) (start state hwhole)
  rw [outcome_onPart]
  exact ⟨finish state _ hwhole kept, value⟩

end Keeps

/-! ### Sessions that do not fail -/

/-- Started in a state that satisfies the precondition, the session gives the value and ends in a
    state that satisfies the postcondition. -/
def Yields (s : Session σ ε α) (pre : σ → Prop) (a : α) (post : σ → Prop) : Prop :=
  ∀ state, pre state → (s.outcome state).1 = .ok a ∧ post (s.outcome state).2

namespace Yields

variable {pre between post : σ → Prop} {a : α} {b : β}

theorem fst_outcome {s : Session σ ε α} {state : σ} (h : pre state) (post : σ → Prop)
    (hs : Yields s pre a post) : (s.outcome state).1 = .ok a :=
  (hs state h).1

theorem snd_outcome {s : Session σ ε α} {state : σ} (h : pre state) (hs : Yields s pre a post) :
    post (s.outcome state).2 :=
  (hs state h).2

theorem pure (a : α) : Yields (Pure.pure a : Session σ ε α) pre a pre :=
  fun _ h => ⟨rfl, h⟩

/-- A session that gives a value keeps what it starts and ends with. -/
theorem keeps {s : Session σ ε α} (hs : Yields s pre a pre) : Keeps s pre (· = a) := by
  intro state h
  obtain ⟨value, after⟩ := hs state h
  refine ⟨after, fun b given => ?_⟩
  rw [value] at given
  exact (Except.ok.inj given).symm

/-- One session after another. -/
theorem bind {s : Session σ ε α} {f : α → Session σ ε β} (hs : Yields s pre a between)
    (hf : Yields (f a) between b post) : Yields (s >>= f) pre b post := by
  intro state h
  obtain ⟨value, after⟩ := hs state h
  rw [outcome_bind]
  revert value after
  cases s.outcome state with
  | mk result state' =>
    rintro ⟨⟩ after
    exact hf state' after

/-- Changing errors does not change what a session yields. -/
theorem mapError {s : Session σ ε α} (f : ε → δ) (hs : Yields s pre a post) :
    Yields (s.mapError f) pre a post := by
  intro state h
  rw [outcome_mapError]
  exact ⟨mapError_eq_ok.2 (hs state h).1, (hs state h).2⟩

/-- What is yielded on a part of the state is yielded on the whole. -/
theorem onPart {s : Session σ ε α} {part : τ → σ} {update : τ → σ → τ} {whole : τ → Prop}
    (start : ∀ state, whole state → pre (part state)) (hs : Yields s pre a post)
    (finish : ∀ state changed, whole state → post changed → whole (update state changed)) :
    Yields (s.onPart part update) whole a whole := by
  intro state h
  obtain ⟨value, after⟩ := hs (part state) (start state h)
  rw [outcome_onPart]
  exact ⟨value, finish state _ h after⟩

end Yields

/-! ### Sessions that may fail -/

/-- Started in a state that satisfies the precondition, the session ends in a state that fits the
    value that it gives, or the error. -/
structure Ends (s : Session σ ε α) (pre : σ → Prop) (post : α → σ → Prop)
    (fail : ε → σ → Prop) : Prop where
  ok : ∀ state a, pre state → (s.outcome state).1 = .ok a → post a (s.outcome state).2
  error : ∀ state e, pre state → (s.outcome state).1 = .error e → fail e (s.outcome state).2

/-- A session that keeps an invariant ends in it, with a value or with an error. -/
theorem Keeps.ends {s : Session σ ε α} (hs : s.Keeps inv post) :
    s.Ends inv (fun a state => post a ∧ inv state) fun _ => inv where
  ok state a h value := ⟨(hs state h).2 a value, (hs state h).1⟩
  error state _ h _ := (hs state h).1

namespace Ends

variable {pre : σ → Prop} {mid post : α → σ → Prop} {fail : ε → σ → Prop}

theorem pure {a : α} (h : ∀ state, pre state → post a state) :
    Ends (Pure.pure a : Session σ ε α) pre post fail where
  ok state b hpre value := by
    cases value
    exact h state hpre
  error state e hpre failed := nomatch failed

/-- One session after another. -/
theorem bind {s : Session σ ε α} {f : α → Session σ ε β} {post : β → σ → Prop}
    (hs : Ends s pre mid fail) (hf : ∀ a, Ends (f a) (mid a) post fail) :
    Ends (s >>= f) pre post fail := by
  constructor
  · intro state b hpre
    have middle := fun a => hs.ok state a hpre
    rw [outcome_bind]
    revert middle
    cases s.outcome state with
    | mk result state' =>
      intro middle value
      cases result with
      | error e => cases value
      | ok a => exact (hf a).ok state' b (middle a rfl) value
  · intro state e hpre
    have middle := fun a => hs.ok state a hpre
    have failing := fun e => hs.error state e hpre
    rw [outcome_bind]
    revert middle failing
    cases s.outcome state with
    | mk result state' =>
      intro middle failing failed
      cases result with
      | error e' =>
        cases failed
        exact failing e rfl
      | ok a => exact (hf a).error state' e (middle a rfl) failed

end Ends

/-! ### Two sessions -/

/-- Started in related states, the two sessions give the same value or error and end in related
    states. -/
def Matches (s : Session σ ε α) (t : Session τ ε α) (rel : σ → τ → Prop) : Prop :=
  ∀ a b, rel a b →
    (s.outcome a).1 = (t.outcome b).1 ∧ rel (s.outcome a).2 (t.outcome b).2

namespace Matches

variable {υ ω : Type} {rel : σ → τ → Prop}

theorem pure (a : α) : Matches (Pure.pure a : Session σ ε α) (Pure.pure a : Session τ ε α) rel :=
  fun _ _ related => ⟨rfl, related⟩

theorem throw (e : ε) : Matches (MonadExcept.throw e : Session σ ε α)
    (MonadExcept.throw e : Session τ ε α) rel :=
  fun _ _ related => ⟨rfl, related⟩

theorem ofExcept (result : Except ε α) : Matches (Session.ofExcept result : Session σ ε α)
    (Session.ofExcept result : Session τ ε α) rel :=
  fun _ _ related => ⟨rfl, related⟩

/-- Sessions that match still do so when their errors are changed alike. -/
theorem mapError {s : Session σ ε α} {t : Session τ ε α} (f : ε → δ) (hs : Matches s t rel) :
    Matches (s.mapError f) (t.mapError f) rel := by
  intro a b related
  obtain ⟨same, after⟩ := hs a b related
  rw [outcome_mapError, outcome_mapError, same]
  exact ⟨rfl, after⟩

/-- Sessions on parts of states. -/
theorem onPart {s : Session σ ε α} {t : Session τ ε α} {part : υ → σ} {update : υ → σ → υ}
    {part' : ω → τ} {update' : ω → τ → ω} {whole : υ → ω → Prop}
    (start : ∀ a b, whole a b → rel (part a) (part' b)) (hs : Matches s t rel)
    (finish : ∀ a b a' b', whole a b → rel a' b' → whole (update a a') (update' b b')) :
    Matches (s.onPart part update) (t.onPart part' update') whole := by
  intro a b related
  obtain ⟨same, after⟩ := hs _ _ (start a b related)
  rw [outcome_onPart, outcome_onPart]
  exact ⟨same, finish a b _ _ related after⟩

/-- One session after another. -/
theorem bind {s : Session σ ε α} {t : Session τ ε α} {f : α → Session σ ε β}
    {g : α → Session τ ε β} (hs : Matches s t rel) (hf : ∀ a, Matches (f a) (g a) rel) :
    Matches (s >>= f) (t >>= g) rel := by
  intro a b related
  obtain ⟨same, after⟩ := hs a b related
  rw [outcome_bind, outcome_bind]
  revert same after
  rcases s.outcome a with ⟨result, a'⟩
  rcases t.outcome b with ⟨result', b'⟩
  rintro ⟨⟩ after
  cases result with
  | error e => exact ⟨rfl, after⟩
  | ok value => exact hf value a' b' after

/-- Sessions with others to fall back on. -/
theorem tryCatch {s : Session σ ε α} {t : Session τ ε α} {f : ε → Session σ ε α}
    {g : ε → Session τ ε α} (hs : Matches s t rel) (hf : ∀ e, Matches (f e) (g e) rel) :
    Matches (tryCatch s f) (tryCatch t g) rel := by
  intro a b related
  obtain ⟨same, after⟩ := hs a b related
  rw [outcome_tryCatch, outcome_tryCatch]
  revert same after
  rcases s.outcome a with ⟨result, a'⟩
  rcases t.outcome b with ⟨result', b'⟩
  rintro ⟨⟩ after
  cases result with
  | error e => exact hf e a' b' after
  | ok value => exact ⟨rfl, after⟩

/-- A session for each element of a list, in the order of the list. -/
theorem mapM {f : α → Session σ ε β} {g : α → Session τ ε β} (hf : ∀ a, Matches (f a) (g a) rel)
    (l : List α) : Matches (l.mapM f) (l.mapM g) rel := by
  induction l with
  | nil => exact pure []
  | cons a rest ih =>
    rw [List.mapM_cons, List.mapM_cons]
    exact (hf a).bind fun b => ih.bind fun bs => pure (b :: bs)

end Matches

end LargeFiles.Session
