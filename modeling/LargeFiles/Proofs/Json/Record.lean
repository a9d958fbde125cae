import LargeFiles.Json.Record
import LargeFiles.Proofs.Json.Text
import LargeFiles.Proofs.SortedMap

/-!
# Reading records that were written

Writing and reading undo each other for the parts of messages, and then for the messages.

* `Faithful`          a way of writing and a way of reading that gives back what was written;
* `Faithful.list`, `Faithful.map`   the same for lists and for maps of such things;
* `Slot`              a member that is always there, left out for a fixed value, or optional;
* `Faithful.record`   an object of such members is read as the record that it was written for;
* `record?_of_meaning`   an object is read alike under either name of a field.
-/

namespace LargeFiles.Json

variable {α : Type} {write : α → Json} {read : Json → Option α}

/-- A way of writing values and a way of reading them that gives each value back. -/
structure Faithful (write : α → Json) (read : Json → Option α) : Prop where
  read_write : ∀ a, read (write a) = some a
  /-- What is written has a text that spells it. -/
  plain : ∀ a, Plain (write a)
  /-- Nothing is written as a null, which stands for a value that is not there. -/
  ne_null : ∀ a, write a ≠ null

/-- Reading the items of a list that was written item by item. -/
theorem mapM_map_eq_some {β γ : Type} {f : β → γ} {g : γ → Option β} (h : ∀ b, g (f b) = some b)
    (l : List β) : (l.map f).mapM g = some l := by
  induction l with
  | nil => rfl
  | cons b rest ih => simp [h, ih]

namespace Faithful

/-! ### Scalars -/

/-- Strings are read as they were written. -/
theorem text : Faithful ofString text? where
  read_write := unescape_escape
  plain := .text
  ne_null := nofun

/-- Truth values are read as they were written. -/
theorem bool : Faithful Json.bool bool? where
  read_write _ := rfl
  plain := .bool
  ne_null := nofun

/-- Numbers of 64 bits are read as they were written. -/
theorem uint64 : Faithful (fun n : UInt64 => ofNat n.toNat) uint64? where
  read_write := uint64?_ofNat
  plain n := .number n.toNat
  ne_null := nofun

/-- Signed numbers of 32 bits are read as they were written. -/
theorem int32 : Faithful (fun n : Int32 => ofInt n.toInt) int32? where
  read_write := int32?_ofInt
  plain n := .number n.toInt
  ne_null := nofun

/-! ### Lists and maps -/

/-- Lists are read as they were written, if their elements are. -/
theorem list (h : Faithful write read) :
    Faithful (fun l : List α => array (l.map write)) (list? read) where
  read_write := mapM_map_eq_some h.read_write
  plain l := by
    refine .array fun item mem => ?_
    obtain ⟨a, -, rfl⟩ := List.mem_map.1 mem
    exact h.plain a
  ne_null := nofun

/-- Maps are read as they were written, if their values are. -/
theorem map (h : Faithful write read) : Faithful (ofMap write) (map? read) where
  read_write m := by
    -- The names are unescaped, and each value is read, before the map is put together again.
    rw [ofMap, ofMembers, List.map_map, map?, mapM_map_eq_some, Option.map_some,
      SortedMap.ofList_toList]
    intro entry
    simp only [Function.comp_apply, unescape_escape, h.read_write]
  plain m := by
    refine .object fun member mem => ?_
    obtain ⟨entry, -, rfl⟩ := List.mem_map.1 mem
    exact h.plain entry.2
  ne_null := nofun

end Faithful

/-! ### Objects of members that may be missing -/

/-- A member that an object may have. -/
structure Slot where
  name : String
  value : Option Json
  plain : ∀ v ∈ value, Plain v

namespace Slot

/-- A member that is always there. -/
def always (h : Faithful write read) (name : String) (a : α) : Slot where
  name := name
  value := some (write a)
  plain := by
    rintro _ ⟨⟩
    exact h.plain a

/-- A member that is left out under a condition. -/
def leftOut (h : Faithful write read) (name : String) (left : Bool) (a : α) : Slot where
  name := name
  value := if left then none else some (write a)
  plain := by
    intro v mem
    cases left with
    | true => cases mem
    | false =>
      cases mem
      exact h.plain a

/-- A member that is there if there is something to give. -/
def ofOption (h : Faithful write read) (name : String) (a : Option α) : Slot where
  name := name
  value := a.map write
  plain := by
    intro v mem
    obtain ⟨b, -, rfl⟩ := Option.map_eq_some_iff.1 mem
    exact h.plain b

end Slot

/-- The members that are there. -/
def present (slots : List Slot) : List (String × Json) :=
  slots.filterMap fun slot => slot.value.map (slot.name, ·)

/-- What the member of a name has, if it is there. -/
def value? (slots : List Slot) (name : String) : Option Json :=
  (slots.find? (name == ·.name)).bind (·.value)

@[simp] theorem present_nil : present [] = [] := rfl

@[simp] theorem present_always (h : Faithful write read) (name : String) (a : α)
    (rest : List Slot) :
    present (.always h name a :: rest) = (name, write a) :: present rest := rfl

/-- A slot that may be left out has a member unless it is. -/
@[simp] theorem present_leftOut (h : Faithful write read) (name : String) (left : Bool) (a : α)
    (rest : List Slot) :
    present (.leftOut h name left a :: rest) =
      (if left then [] else [(name, write a)]) ++ present rest := by
  cases left <;> rfl

/-- An optional slot has a member if it has a value. -/
@[simp] theorem present_ofOption (h : Faithful write read) (name : String) (a : Option α)
    (rest : List Slot) :
    present (.ofOption h name a :: rest) =
      a.toList.map (fun a => (name, write a)) ++ present rest := by
  cases a <;> rfl

/-- The members have names of slots, in the same order. -/
theorem names_present_sublist (slots : List Slot) :
    ((present slots).map (·.1)).Sublist (slots.map (·.name)) := by
  induction slots with
  | nil => exact .slnil
  | cons slot rest ih =>
    obtain ⟨name, v, plain⟩ := slot
    cases v with
    | none => exact ih.cons name
    | some v => exact ih.cons_cons name

theorem present_cons_some {slot : Slot} {v : Json} (given : slot.value = some v)
    (rest : List Slot) : present (slot :: rest) = (slot.name, v) :: present rest :=
  List.filterMap_cons_some (by rw [given, Option.map_some])

theorem present_cons_none {slot : Slot} (missing : slot.value = none) (rest : List Slot) :
    present (slot :: rest) = present rest :=
  List.filterMap_cons_none (by rw [missing, Option.map_none])

/-- Looking a member up that may be missing. -/
theorem lookup_present (slots : List Slot) (distinct : (slots.map (·.name)).Nodup)
    (name : String) : (present slots).lookup name = value? slots name := by
  induction slots with
  | nil => rfl
  | cons slot rest ih =>
    rw [List.map_cons, List.nodup_cons] at distinct
    have ih := ih distinct.2
    by_cases same : name = slot.name
    · have found : value? (slot :: rest) name = slot.value := by simp [value?, same]
      cases given : slot.value with
      | some v =>
        rw [found, given, present_cons_some given, same, List.lookup_cons_self]
      | none =>
        -- No later slot has the name, as the names are distinct.
        have absent : rest.find? (name == ·.name) = none := by
          rw [List.find?_eq_none]
          exact fun other mem eq => distinct.1
            (List.mem_map.2 ⟨other, mem, (beq_iff_eq.1 eq).symm.trans same⟩)
        rw [found, given, present_cons_none given, ih, value?, absent, Option.bind_none]
    · have other : (name == slot.name) = false := beq_eq_false_iff_ne.2 same
      -- The name is that of a later slot, or of none.
      have later : value? (slot :: rest) name = value? rest name := by simp [value?, other]
      rw [later, ← ih]
      cases given : slot.value with
      | some v => rw [present_cons_some given, List.lookup_cons, other]
      | none => rw [present_cons_none given]

/-- Whether each of some fields is the one that its name means, and none has the name of another. -/
def Distinct (fields : List Field) : Prop :=
  (fields.map (·.name)).Nodup ∧
    ∀ field ∈ fields, (fields.find? (·.answersTo field.name)).map (·.name) = some field.name

instance (fields : List Field) : Decidable (Distinct fields) :=
  inferInstanceAs (Decidable (_ ∧ _))

/-- An object of some of the members that a record knows gives the record these members. -/
theorem record?_present {fields : List Field} (distinct : Distinct fields) {slots : List Slot}
    (names : slots.map (·.name) = fields.map (·.name)) :
    (ofMembers (present slots)).record? fields = some ⟨present slots, true⟩ := by
  have known (member : String × Json) (mem : member ∈ present slots) :
      (fields.find? (·.answersTo member.1)).map (fun field => (field.name, member.2)) =
        some member := by
    -- The name is that of a field, and means this field and no other.
    have named : member.1 ∈ fields.map (·.name) :=
      names ▸ (names_present_sublist slots).mem (List.mem_map_of_mem mem)
    obtain ⟨field, mem', name⟩ := List.mem_map.1 named
    have found := congrArg (Option.map (·, member.2)) (distinct.2 field mem')
    rwa [name, Option.map_map] at found
  have names_nodup : ((present slots).map (·.1)).Nodup :=
    (names_present_sublist slots).nodup (names ▸ distinct.1)
  -- Each name was escaped when it was written, and is read back.
  have read := mapM_map_eq_some (f := fun member : String × Json => (escape member.1, member.2))
    (g := fun member => (unescape member.1).map (·, member.2))
    (fun member => by rw [unescape_escape, Option.map_some]) (present slots)
  rw [ofMembers, record?, read]
  simp only [List.filterMap_congr known, List.filterMap_some, if_pos names_nodup]

/-! ### Records -/

namespace Faithful

theorem required {r : Record} {name : String} {a : α} (h : Faithful write read)
    (given : r.given.lookup name = some (write a)) : r.required name read = some a := by
  rw [Record.required, given, Option.bind_some, h.read_write]

/-- A field with a default is read from its member. -/
theorem withDefault_always {r : Record} {name : String} {a absent : α} (h : Faithful write read)
    (given : r.given.lookup name = some (write a)) : r.withDefault name absent read = some a := by
  rw [Record.withDefault, given]
  exact h.read_write a

/-- A field that was left out is read as its default, which it must have been. -/
theorem withDefault {r : Record} {name : String} {a absent : α} (h : Faithful write read)
    {left : Bool} (given : r.given.lookup name = if left then none else some (write a))
    (same : left = true → a = absent) : r.withDefault name absent read = some a := by
  cases left with
  | true =>
    rw [Record.withDefault, given, same rfl]
    rfl
  | false => exact h.withDefault_always given

/-- A value that is not null is read as such. -/
theorem nullable (h : Faithful write read) (a : α) :
    Record.nullable read (write a) = some (some a) := by
  rw [Record.nullable, h.read_write, Option.map_some]
  exact h.ne_null a

/-- An optional field is read from its member if there is one. -/
theorem optional {r : Record} {name : String} {a : Option α} (h : Faithful write read)
    (given : r.given.lookup name = a.map write) : r.optional name read = some a := by
  rw [Record.optional, Record.withDefault, given]
  cases a with
  | none => rfl
  | some a => exact h.nullable a

/-- An object is read as the record that it was written for, if its members are what is written for
    the fields. -/
theorem record {fields : List Field} {decode : Record → Option α} (slots : α → List Slot)
    (distinct : Distinct fields) (reads : ∀ v, read v = (v.record? fields).bind decode)
    (names : ∀ a, (slots a).map (·.name) = fields.map (·.name))
    (written : ∀ a, write a = ofMembers (present (slots a)))
    (given : ∀ a (r : Record), (∀ name, r.given.lookup name = value? (slots a) name) →
      decode r = some a) : Faithful write read where
  read_write a := by
    rw [written, reads, record?_present distinct (names a), Option.bind_some]
    -- The reader sees a value for exactly the slots that were written.
    refine given a _ (lookup_present (slots a) ?_)
    rw [names]
    exact distinct.1
  plain a := by
    rw [written]
    refine .object fun member mem => ?_
    obtain ⟨slot, -, given⟩ := List.mem_filterMap.1 mem
    obtain ⟨v, value, rfl⟩ := Option.map_eq_some_iff.1 given
    exact slot.plain v value
  ne_null a := by
    rw [written]
    exact nofun

end Faithful

/-! ### Other names -/

/-- What a member's name, as it is written, means to a record: one of its fields, or none; if it is
    a text at all. -/
def meaning (fields : List Field) (name : Bytes) : Option (Option String) :=
  (unescape name).map fun key => (fields.find? (·.answersTo key)).map (·.name)

/-- The members that a record knows, under the names of its fields. -/
def known? (fields : List Field) : List (Bytes × Json) → Option (List (String × Json))
  | [] => some []
  | member :: rest =>
    (meaning fields member.1).bind fun name =>
      (known? fields rest).map fun known => (name.map (·, member.2)).toList ++ known

/-- The members of an object that have names of fields give a record, if no name is there twice. -/
theorem record?_object (fields : List Field) (members : List (Bytes × Json)) :
    (object members).record? fields = (known? fields members).bind fun known =>
      if (known.map (·.1)).Nodup then some ⟨known, true⟩ else none := by
  -- Unknown members are skipped, but a name that cannot be read makes the object unreadable.
  have known : known? fields members =
      (members.mapM fun member => (unescape member.1).map (·, member.2)).map fun members =>
        members.filterMap fun member =>
          (fields.find? (·.answersTo member.1)).map fun field => (field.name, member.2) := by
    induction members with
    | nil => rfl
    | cons member rest ih =>
      rw [known?, ih, meaning, List.mapM_cons]
      cases unescape member.1 with
      | none => rfl
      | some key =>
        cases rest.mapM fun member => (unescape member.1).map (·, member.2) with
        | none => rfl
        | some members =>
          cases found : fields.find? (·.answersTo key) <;> simp [found]
  rw [record?, known]
  cases members.mapM fun member => (unescape member.1).map (·, member.2) <;> rfl

/-- Objects whose members have the same meanings and values are read alike. -/
theorem record?_of_meaning {fields : List Field} {members members' : List (Bytes × Json)}
    (h : List.Forall₂ (fun a b => meaning fields a.1 = meaning fields b.1 ∧ a.2 = b.2)
      members members') :
    (object members).record? fields = (object members').record? fields := by
  have known : known? fields members = known? fields members' := by
    induction h with
    | nil => rfl
    | cons same _ ih => rw [known?, known?, same.1, same.2, ih]
  rw [record?_object, record?_object, known]

end LargeFiles.Json
