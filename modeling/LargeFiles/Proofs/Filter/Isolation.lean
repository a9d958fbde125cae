import LargeFiles.Proofs.Filter.Cache
import LargeFiles.Proofs.Metadata.History

/-!
# Caches do not interfere

Many caches, and others too, may use one metadata store.  What a cache tells of an object depends
only on what is put in by caches of the same name, for the same object and as the same kind, or by
others under the very key of it; and of all this only the first counts.

* `metadata_act`          what becomes of the metadata store in one step;
* `get?_actAll_filter`    a run and the part of it that concerns one place;
* `Lasts.actAll`          a value stays in its place in every run;
* `slices_isolated`       what look-ups tell after single puts and after runs.
-/

namespace LargeFiles.Filter.Cache

variable {σ : Type} {cache : Cache} {kind : Kind} {object : ObjectName} {depot other : Depot σ}

/-! ### Runs -/

/-- What is done with the metadata store of a depot. -/
inductive Action
  | lookUp (cache : Cache) (kind : Kind) (object : ObjectName)
  | put (cache : Cache) (kind : Kind) (object : ObjectName) (value : kind.Value)
  /-- The store is used without a cache. -/
  | direct (op : Metadata.Operation)

/-- The depot after an action. -/
def act (depot : Depot σ) : Action → Depot σ
  | .lookUp cache kind object => ((cache.value? kind object).outcome depot).2
  | .put cache kind object value => ((cache.putValue kind object value).outcome depot).2
  | .direct op => { depot with metadata := (depot.metadata.step op).2 }

/-- The depot after some actions. -/
def actAll (depot : Depot σ) (actions : List Action) : Depot σ := actions.foldl act depot

namespace Action

/-- Closes the metadata store and opens it again. -/
abbrev reopen : Action := .direct .reopen

/-- What an action puts into the metadata store, unless the key has a value. -/
def entry? : Action → Option Metadata.Entry
  | .put cache kind object value => some ⟨cache.key kind object, kind.stored value⟩
  | .direct (.putIfAbsent key value) => some ⟨key, value⟩
  | .lookUp .. | .direct _ => none

/-- Whether an action may put something where a cache keeps a value: it is a put of the same kind
    for the same object by a cache of the same name, or a put under the very key. -/
def concerns (cache : Cache) (kind : Kind) (object : ObjectName) : Action → Bool
  | .put cache' kind' object' _ =>
    cache'.filterName == cache.filterName && kind' == kind && object' == object
  | .direct (.putIfAbsent key _) => key == cache.key kind object
  | .lookUp .. | .direct _ => false

/-- An action concerns an entry if it puts a value at the key of that entry. -/
theorem concerns_iff {action : Action} : action.concerns cache kind object = true ↔
    ∃ e, action.entry? = some e ∧ e.key = cache.key kind object := by
  cases action with
  | lookUp => simp [concerns, entry?]
  | put => simp [concerns, entry?, key_inj, and_assoc]
  | direct op => cases op <;> simp [concerns, entry?]

end Action

/-- Closing the metadata store loses nothing, if it is closed at all: the store is durable, and all
    that is put in fits into records. -/
def Lossless (depot : Depot σ) (actions : List Action) : Prop :=
  .reopen ∈ actions →
    depot.metadata.Durable ∧ ∀ action ∈ actions, ∀ e, action.entry? = some e → e.Fits

/-! ### Single actions -/

/-- An action puts in what it has to put, if anything, and a durable store may be closed. -/
theorem metadata_act {action : Action} (kept : action = .reopen → depot.metadata.Durable) :
    (act depot action).metadata = match action.entry? with
      | some e => (depot.metadata.putIfAbsent e.key e.value).2
      | none => depot.metadata := by
  cases action with
  | lookUp => simp [act, Action.entry?]
  | put => simp [act, Action.entry?, outcome_putValue]
  | direct op =>
    cases op with
    | reopen => exact kept rfl
    | _ => rfl

/-- An action that does not concern a place leaves alone what is there. -/
theorem get?_act_of_not_concerns {action : Action}
    (kept : action = .reopen → depot.metadata.Durable)
    (apart : action.concerns cache kind object = false) :
    (act depot action).metadata.tables.get? (cache.key kind object) =
      depot.metadata.tables.get? (cache.key kind object) := by
  rw [metadata_act kept]
  cases entry : action.entry? with
  | none => rfl
  | some e =>
    -- If the action put something there it would concern the entry.
    have ne : cache.key kind object ≠ e.key := by
      intro same
      rw [Action.concerns_iff.2 ⟨e, entry, same.symm⟩] at apart
      cases apart
    rw [Metadata.Store.tables_putIfAbsent, Metadata.get?_putIfAbsent_of_ne _ ne]

/-- An action that concerns a place does the same there in two depots that agree on it. -/
theorem get?_act_of_concerns {action : Action}
    (concerned : action.concerns cache kind object = true)
    (agree : depot.metadata.tables.get? (cache.key kind object) =
      other.metadata.tables.get? (cache.key kind object)) :
    (act depot action).metadata.tables.get? (cache.key kind object) =
      (act other action).metadata.tables.get? (cache.key kind object) := by
  obtain ⟨e, entry, same⟩ := Action.concerns_iff.1 concerned
  -- What is left depends on what was there before and on nothing else in the depots.
  have unclosed : action ≠ .reopen := by
    rintro rfl
    cases entry
  rw [metadata_act (absurd · unclosed), metadata_act (absurd · unclosed), entry, ← same]
  simp only [Metadata.Store.tables_putIfAbsent, Metadata.get?_putIfAbsent_self]
  rw [same, agree]

/-! ### One place in a run -/

/-- If reopening loses nothing during some actions, it loses nothing after the first of them. -/
theorem Lossless.act {action : Action} {rest : List Action}
    (lossless : Lossless depot (action :: rest)) : Lossless (Cache.act depot action) rest := by
  intro closes
  obtain ⟨durable, fit⟩ := lossless (List.mem_cons_of_mem _ closes)
  refine ⟨?_, fun later mem => fit later (List.mem_cons_of_mem _ mem)⟩
  rw [metadata_act fun _ => durable]
  cases entry : action.entry? with
  | none => exact durable
  | some e => exact durable.putIfAbsent (fit action List.mem_cons_self e entry)

/-- What a run leaves in a place is what is left by its actions that concern the place. -/
theorem get?_actAll_filter {actions : List Action} (lossless : Lossless depot actions)
    (agree : depot.metadata.tables.get? (cache.key kind object) =
      other.metadata.tables.get? (cache.key kind object)) :
    (actAll depot actions).metadata.tables.get? (cache.key kind object) =
      (actAll other (actions.filter (·.concerns cache kind object))).metadata.tables.get?
        (cache.key kind object) := by
  -- The two runs go through depots that agree on the place, where the second one stands still
  -- while the first carries out what does not concern it.
  induction actions generalizing depot other with
  | nil => exact agree
  | cons action rest ih =>
    cases concerned : action.concerns cache kind object with
    | true =>
      rw [List.filter_cons_of_pos concerned]
      exact ih lossless.act (get?_act_of_concerns concerned agree)
    | false =>
      have kept : action = .reopen → depot.metadata.Durable := fun closes =>
        (lossless (closes ▸ List.mem_cons_self)).1
      rw [List.filter_cons_of_neg (by simp [concerned])]
      exact ih lossless.act ((get?_act_of_not_concerns kept concerned).trans agree)

/-! ### Values that last -/

/-- There is a value under a key and, if the metadata store is going to be closed, the value would
    be there if the store were opened again right away. -/
structure Lasts (closes : Prop) (key : Metadata.Key) (value : Metadata.Value)
    (store : Metadata.Store) : Prop where
  found : store.tables.get? key = some value
  again : closes → store.reopen.tables.get? key = some value

namespace Lasts

variable {closes : Prop} {key : Metadata.Key} {value : Metadata.Value} {store : Metadata.Store}

/-- A put leaves a value that lasts alone, even if what is put will be lost itself. -/
theorem putIfAbsent (h : Lasts closes key value store) (e : Metadata.Entry) :
    Lasts closes key value (store.putIfAbsent e.key e.value).2 where
  found := by
    rw [Metadata.Store.tables_putIfAbsent]
    exact Metadata.get?_putIfAbsent_of_some h.found e.key e.value
  again closing := Metadata.Store.get?_reopen_putIfAbsent (h.again closing) e.key e.value

/-- What lasts is still there after reopening. -/
theorem reopen (h : Lasts closes key value store) (closing : closes) :
    Lasts closes key value store.reopen where
  found := h.again closing
  again _ := by
    -- The second opening finds what the first one has left, and leaves all of it.
    have same : store.reopen.reopen = store.reopen := store.durable_reopen
    rw [same]
    exact h.again closing

/-- What lasts is still there after an action, since a value is never replaced. -/
theorem act (h : Lasts closes key value depot.metadata) {action : Action}
    (may : action = .reopen → closes) :
    Lasts closes key value (Cache.act depot action).metadata := by
  -- Closing is the one action that is neither a put nor without effect.
  by_cases closing : action = .reopen
  · subst closing
    exact h.reopen (may rfl)
  · rw [metadata_act (absurd · closing)]
    cases action.entry? with
    | none => exact h
    | some e => exact h.putIfAbsent e

/-- What lasts is still there after any number of actions. -/
theorem actAll (h : Lasts closes key value depot.metadata) {actions : List Action}
    (may : .reopen ∈ actions → closes) :
    Lasts closes key value (Cache.actAll depot actions).metadata := by
  induction actions generalizing depot with
  | nil => exact h
  | cons action rest ih =>
    apply ih
    · exact h.act fun closing => may (closing ▸ List.mem_cons_self)
    · exact fun mem => may (List.mem_cons_of_mem _ mem)

end Lasts

/-! ### Slices -/

/-- Whether metadata is kept in memory or in a journal, a put through a cache changes what a cache
    tells if and only if the names of the two, the objects and the kinds are the same and nothing
    was told before.  What is put through a cache every cache of its name tells, unless it told
    something already.  What is told after a run depends only on those puts of the run that are
    made in this very place.  A value that is told is told after every run, whatever is put in it,
    even if the metadata store is closed and opened again in it, as long as this would not lose
    the value at once. -/
theorem slices_isolated (depot : Depot σ) :
    (∀ (a b : Cache) (kind kind' : Kind) (g h : ObjectName) (value : kind.Value),
      b.told kind' h ((a.putValue kind g value).outcome depot).2 ≠ b.told kind' h depot ↔
        a.filterName = b.filterName ∧ kind = kind' ∧ g = h ∧ b.told kind' h depot = .ok none) ∧
    (∀ a b : Cache, a.filterName = b.filterName → ∀ kind object (value : kind.Value),
      b.told kind object ((a.putValue kind object value).outcome depot).2 =
        (a.told kind object depot).map (·.or (some value))) ∧
    (∀ (cache : Cache) kind object actions, Lossless depot actions →
      cache.told kind object (actAll depot actions) =
        cache.told kind object
          (actAll depot (actions.filter (·.concerns cache kind object)))) ∧
    ∀ (cache : Cache) kind object value, cache.told kind object depot = .ok (some value) →
      ∀ actions, (.reopen ∈ actions →
        cache.told kind object (act depot .reopen) = .ok (some value)) →
        cache.told kind object (actAll depot actions) = .ok (some value) := by
  refine ⟨fun a b kind kind' g h value => told_putValue_ne_iff value, ?_, ?_, ?_⟩
  · intro a b name kind object value
    obtain rfl := Cache.ext name
    exact told_putValue a kind object value depot
  · intro cache kind object actions lossless
    exact told_congr (get?_actAll_filter lossless rfl)
  · intro cache kind object value told actions again
    -- Only reopening could lose the value, and then it would be lost at once.
    have lasts : Lasts (.reopen ∈ actions) (cache.key kind object) (kind.stored value)
        depot.metadata :=
      ⟨told_eq_ok_iff.1 told, fun closing => told_eq_ok_iff.1 (again closing)⟩
    exact told_eq_ok_iff.2 (lasts.actAll id).found

/-- The MD5 that is recorded first under a name stays the one that is told, whatever is put under
    a name that goes on with the ending of a table, directly, or after the journal was opened
    again. -/
theorem slices_isolated_dotted :
    let depot : Depot Unit := { objects := {}, metadata := .journal (.openFile []), remote := () }
    let raw : Cache := ⟨"raw"⟩
    let dotted : Cache := ⟨"raw.md5"⟩
    let recorded := act depot (.put raw .md5 .null "aa")
    let actions : List Action := [.put dotted .md5 .null "bb", .put raw .md5 .null "cc", .reopen,
      .direct (.putIfAbsent (raw.md5Key .null) (.number 1)), .put raw .size .null 3]
    dotted.told .md5 .null recorded = .ok none ∧
      raw.told .md5 .null (actAll recorded actions) = .ok (some "aa") := by
  intro depot raw dotted recorded actions
  have nothing : raw.told .md5 .null depot = .ok none ∧
      dotted.told .md5 .null depot = .ok none := by decide +kernel
  obtain ⟨changed, shared, -, -⟩ := slices_isolated depot
  have told : raw.told .md5 .null recorded = .ok (some "aa") := by
    refine (shared raw raw rfl .md5 .null "aa").trans ?_
    rw [nothing.1]
    rfl
  -- The journal has what was put into it, so that reopening it loses nothing.
  have durable : recorded.metadata.Durable := by
    have opened : depot.metadata.Durable :=
      Metadata.Store.durable_journal.2 (Metadata.Journal.settled_openFile [])
    apply opened.putIfAbsent
    unfold Metadata.Entry.Fits
    decide +kernel
  have reopened : act recorded .reopen = recorded :=
    congrArg (fun metadata => { recorded with metadata }) durable
  constructor
  · -- If the put were noticed under the other name, the names would be equal.
    by_contra other
    have same := ((changed raw dotted .md5 .md5 .null .null "aa").1 (nothing.2 ▸ other)).1
    exact absurd same (by decide)
  · exact (slices_isolated recorded).2.2.2 raw .md5 .null "aa" told actions fun _ =>
      (congrArg (raw.told .md5 .null) reopened).trans told

end LargeFiles.Filter.Cache
