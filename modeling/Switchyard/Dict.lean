set_option autoImplicit false

/-! Maps keyed by text, kept in ascending key order. Main statements: a map is determined by its
look-ups (`Dict.ext_get?`), `insert`, `erase` and `filter` act on one key at a time, and every key
is listed once. -/
namespace Switchyard

/-- Entries in strictly ascending order of their keys. -/
structure Dict (α : Type) where
  entries : List (String × α)
  ordered : entries.Pairwise (fun first second => first.1 < second.1)

namespace Dict

variable {α β : Type}

def lookup (key : String) : List (String × α) → Option α
  | [] => none
  | (k, value) :: rest => if k = key then some value else lookup key rest

/-- Puts an entry at its place in an ordered list, replacing one of the same key. -/
def place (key : String) (value : α) : List (String × α) → List (String × α)
  | [] => [(key, value)]
  | (k, old) :: rest =>
    if key < k then (key, value) :: (k, old) :: rest
    else if key = k then (key, value) :: rest
    else (k, old) :: place key value rest

theorem mem_place {key : String} {value : α} {entry : String × α} {list : List (String × α)}
    (found : entry ∈ place key value list) : entry = (key, value) ∨ entry ∈ list := by
  induction list with
  | nil => simpa [place] using found
  | cons head rest ih =>
    obtain ⟨k, old⟩ := head
    rw [place] at found
    split at found
    · simpa using found
    · split at found
      · rcases List.mem_cons.mp found with rfl | inRest
        · exact Or.inl rfl
        · exact Or.inr (List.mem_cons_of_mem _ inRest)
      · rcases List.mem_cons.mp found with rfl | inRest
        · exact Or.inr List.mem_cons_self
        · rcases ih inRest with rfl | old
          · exact Or.inl rfl
          · exact Or.inr (List.mem_cons_of_mem _ old)

theorem place_ordered (key : String) (value : α) {list : List (String × α)}
    (ordered : list.Pairwise (fun first second => first.1 < second.1)) :
    (place key value list).Pairwise (fun first second => first.1 < second.1) := by
  induction list with
  | nil => simp [place]
  | cons head rest ih =>
    obtain ⟨k, old⟩ := head
    obtain ⟨above, tail⟩ := List.pairwise_cons.mp ordered
    rw [place]
    split
    · rename_i less
      refine List.pairwise_cons.mpr ⟨fun entry inside => ?_, ordered⟩
      rcases List.mem_cons.mp inside with rfl | inRest
      · exact less
      · exact String.lt_trans less (above entry inRest)
    · split
      · rename_i equal
        exact List.pairwise_cons.mpr ⟨fun entry inside => equal ▸ above entry inside, tail⟩
      · rename_i notLess different
        refine List.pairwise_cons.mpr ⟨fun entry inside => ?_, ih tail⟩
        rcases mem_place inside with rfl | inRest
        · exact Std.lt_of_le_of_ne (String.not_lt.mp notLess) (Ne.symm different)
        · exact above entry inRest

theorem lookup_place_self (key : String) (value : α) (list : List (String × α)) :
    lookup key (place key value list) = some value := by
  induction list with
  | nil => simp [place, lookup]
  | cons head rest ih =>
    obtain ⟨k, old⟩ := head
    rw [place]
    split
    · simp [lookup]
    · split
      · simp [lookup]
      · rename_i different
        simp [lookup, Ne.symm different, ih]

theorem lookup_place_of_ne {key other : String} (different : key ≠ other) (value : α)
    (list : List (String × α)) : lookup other (place key value list) = lookup other list := by
  induction list with
  | nil => simp [place, lookup, different]
  | cons head rest ih =>
    obtain ⟨k, old⟩ := head
    rw [place]
    split
    · simp [lookup, different]
    · split
      · rename_i equal
        subst equal
        simp [lookup, different]
      · by_cases same : k = other <;> simp [lookup, same, ih]

theorem lookup_eq_none_of_below {key : String} {list : List (String × α)}
    (below : ∀ entry ∈ list, key < entry.1) : lookup key list = none := by
  induction list with
  | nil => rfl
  | cons head rest ih =>
    obtain ⟨k, value⟩ := head
    have here : key < k := below (k, value) List.mem_cons_self
    have different : k ≠ key := fun same => String.lt_irrefl key (same ▸ here)
    rw [lookup, if_neg different]
    exact ih fun entry inside => below entry (List.mem_cons_of_mem _ inside)

theorem mem_of_lookup {key : String} {value : α} {list : List (String × α)}
    (found : lookup key list = some value) : (key, value) ∈ list := by
  induction list with
  | nil => simp [lookup] at found
  | cons head rest ih =>
    obtain ⟨k, first⟩ := head
    rw [lookup] at found
    split at found
    · rename_i same
      simp_all
    · exact List.mem_cons_of_mem _ (ih found)

theorem lookup_of_mem {key : String} {value : α} {list : List (String × α)}
    (ordered : list.Pairwise (fun first second => first.1 < second.1))
    (inside : (key, value) ∈ list) : lookup key list = some value := by
  induction list with
  | nil => simp at inside
  | cons head rest ih =>
    obtain ⟨k, first⟩ := head
    obtain ⟨above, tail⟩ := List.pairwise_cons.mp ordered
    rcases List.mem_cons.mp inside with same | inRest
    · obtain ⟨rfl, rfl⟩ := Prod.mk.inj same
      simp [lookup]
    · have different : k ≠ key := fun same =>
        String.lt_irrefl key (same ▸ above _ inRest)
      rw [lookup, if_neg different]
      exact ih tail inRest

theorem lookup_filter (keep : String → α → Bool) {list : List (String × α)}
    (ordered : list.Pairwise (fun first second => first.1 < second.1)) (key : String) :
    lookup key (list.filter fun entry => keep entry.1 entry.2) =
      (lookup key list).filter (keep key) := by
  induction list with
  | nil => rfl
  | cons head rest ih =>
    obtain ⟨k, value⟩ := head
    obtain ⟨above, tail⟩ := List.pairwise_cons.mp ordered
    by_cases same : k = key
    · subst same
      have gone : lookup k (rest.filter fun entry => keep entry.1 entry.2) = none :=
        lookup_eq_none_of_below fun entry inside => above entry (List.mem_filter.mp inside).1
      by_cases kept : keep k value <;> simp [lookup, kept, gone, Option.filter]
    · by_cases kept : keep k value <;> simp [lookup, kept, same, ih tail]

theorem lookup_map (change : String → α → β) (list : List (String × α)) (key : String) :
    lookup key (list.map fun entry => (entry.1, change entry.1 entry.2)) =
      (lookup key list).map (change key) := by
  induction list with
  | nil => rfl
  | cons head rest ih =>
    obtain ⟨k, value⟩ := head
    by_cases same : k = key
    · subst same
      simp [lookup]
    · simp [lookup, same, ih]

theorem eq_of_lookup_eq {left right : List (String × α)}
    (leftOrdered : left.Pairwise (fun first second => first.1 < second.1))
    (rightOrdered : right.Pairwise (fun first second => first.1 < second.1))
    (same : ∀ key, lookup key left = lookup key right) : left = right := by
  induction left generalizing right with
  | nil =>
    cases right with
    | nil => rfl
    | cons head rest => simpa [lookup] using same head.1
  | cons head rest ih =>
    obtain ⟨k, value⟩ := head
    obtain ⟨above, tail⟩ := List.pairwise_cons.mp leftOrdered
    cases right with
    | nil => simpa [lookup] using same k
    | cons other rest' =>
      obtain ⟨k', value'⟩ := other
      obtain ⟨above', tail'⟩ := List.pairwise_cons.mp rightOrdered
      have first : (k', value') ∈ (k, value) :: rest := by
        apply mem_of_lookup
        rw [same k']
        simp [lookup]
      have second : (k, value) ∈ (k', value') :: rest' := by
        apply mem_of_lookup
        rw [← same k]
        simp [lookup]
      have heads : (k, value) = (k', value') := by
        rcases List.mem_cons.mp first with equal | later
        · exact equal.symm
        · rcases List.mem_cons.mp second with equal | later'
          · exact equal
          · exact absurd (String.lt_trans (above _ later) (above' _ later'))
              (String.lt_irrefl k)
      obtain ⟨rfl, rfl⟩ := Prod.mk.inj heads
      congr 1
      refine ih tail tail' fun key => ?_
      by_cases equal : k = key
      · subst equal
        rw [lookup_eq_none_of_below above, lookup_eq_none_of_below above']
      · simpa [lookup, equal] using same key

def empty : Dict α := ⟨[], List.Pairwise.nil⟩

instance : Inhabited (Dict α) := ⟨empty⟩

def get? (dict : Dict α) (key : String) : Option α := lookup key dict.entries

def contains (dict : Dict α) (key : String) : Bool := (dict.get? key).isSome

def insert (dict : Dict α) (key : String) (value : α) : Dict α :=
  ⟨place key value dict.entries, place_ordered key value dict.ordered⟩

def filter (dict : Dict α) (keep : String → α → Bool) : Dict α :=
  ⟨dict.entries.filter fun entry => keep entry.1 entry.2, dict.ordered.filter _⟩

def erase (dict : Dict α) (key : String) : Dict α :=
  dict.filter fun k _ => !decide (k = key)

def map (dict : Dict α) (change : String → α → β) : Dict β :=
  ⟨dict.entries.map fun entry => (entry.1, change entry.1 entry.2),
    List.pairwise_map.mpr dict.ordered⟩

def keys (dict : Dict α) : List String := dict.entries.map (·.1)

def values (dict : Dict α) : List α := dict.entries.map (·.2)

def size (dict : Dict α) : Nat := dict.entries.length

def isEmpty (dict : Dict α) : Bool := dict.entries.isEmpty

/-- Later entries of the list replace earlier ones of the same key. -/
def ofList (list : List (String × α)) : Dict α :=
  list.foldl (fun dict entry => dict.insert entry.1 entry.2) empty

instance [BEq α] : BEq (Dict α) := ⟨fun left right => left.entries == right.entries⟩

theorem ext_entries {left right : Dict α} (same : left.entries = right.entries) :
    left = right := by
  cases left
  cases right
  cases same
  rfl

theorem ext_get? {left right : Dict α} (same : ∀ key, left.get? key = right.get? key) :
    left = right :=
  ext_entries (eq_of_lookup_eq left.ordered right.ordered same)

@[simp] theorem get?_empty (key : String) : (empty : Dict α).get? key = none := rfl

@[simp] theorem get?_insert_self (dict : Dict α) (key : String) (value : α) :
    (dict.insert key value).get? key = some value :=
  lookup_place_self key value dict.entries

theorem get?_insert_of_ne (dict : Dict α) {key other : String} (different : key ≠ other)
    (value : α) : (dict.insert key value).get? other = dict.get? other :=
  lookup_place_of_ne different value dict.entries

theorem get?_insert (dict : Dict α) (key other : String) (value : α) :
    (dict.insert key value).get? other = if key = other then some value else dict.get? other := by
  by_cases same : key = other
  · subst same
    simp
  · simp [same, get?_insert_of_ne dict same]

theorem forall_get?_insert {dict : Dict α} {holds : String → α → Prop} {key : String} {value : α}
    (added : holds key value)
    (before : ∀ other found, dict.get? other = some found → holds other found) :
    ∀ other found, (dict.insert key value).get? other = some found → holds other found := by
  intro other found here
  rw [get?_insert] at here
  split at here
  · rename_i same
    rwa [← same, ← Option.some.inj here]
  · exact before other found here

theorem get?_filter (dict : Dict α) (keep : String → α → Bool) (key : String) :
    (dict.filter keep).get? key = (dict.get? key).filter (keep key) :=
  lookup_filter keep dict.ordered key

theorem get?_erase (dict : Dict α) (key other : String) :
    (dict.erase key).get? other = if key = other then none else dict.get? other := by
  rw [erase, get?_filter]
  by_cases same : key = other
  · subst same
    cases dict.get? key <;> simp [Option.filter]
  · have reversed : other ≠ key := Ne.symm same
    cases dict.get? other <;> simp [Option.filter, same, reversed]

theorem get?_map (dict : Dict α) (change : String → α → β) (key : String) :
    (dict.map change).get? key = (dict.get? key).map (change key) :=
  lookup_map change dict.entries key

theorem isEmpty_iff (dict : Dict α) :
    dict.isEmpty = true ↔ ∀ key, dict.get? key = none := by
  obtain ⟨entries, ordered⟩ := dict
  cases entries with
  | nil => exact iff_of_true rfl fun _ => rfl
  | cons first rest =>
    refine iff_of_false Bool.false_ne_true fun nothing => ?_
    have gone := nothing first.1
    rw [get?, lookup, if_pos rfl] at gone
    cases gone

theorem contains_iff (dict : Dict α) (key : String) :
    dict.contains key = true ↔ ∃ value, dict.get? key = some value :=
  Option.isSome_iff_exists

theorem get?_eq_some_iff (dict : Dict α) (key : String) (value : α) :
    dict.get? key = some value ↔ (key, value) ∈ dict.entries :=
  ⟨mem_of_lookup, lookup_of_mem dict.ordered⟩

theorem mem_keys_iff (dict : Dict α) (key : String) :
    key ∈ dict.keys ↔ dict.contains key = true := by
  rw [contains_iff, keys, List.mem_map]
  constructor
  · rintro ⟨⟨k, value⟩, inside, rfl⟩
    exact ⟨value, lookup_of_mem dict.ordered inside⟩
  · rintro ⟨value, found⟩
    exact ⟨(key, value), mem_of_lookup found, rfl⟩

theorem forall_mem_values_iff (dict : Dict α) (holds : α → Prop) :
    (∀ value ∈ dict.values, holds value) ↔
      ∀ key value, dict.get? key = some value → holds value := by
  rw [values, List.forall_mem_map]
  exact ⟨fun all key value found => all (key, value) (mem_of_lookup found),
    fun all entry inside => all entry.1 entry.2 (lookup_of_mem dict.ordered inside)⟩

theorem findSome?_values_eq_some_iff (dict : Dict α) (search : α → Option β) (result : β) :
    dict.values.findSome? search = some result ↔
      ∃ key value, dict.get? key = some value ∧ search value = some result ∧
        ∀ earlier other, earlier < key → dict.get? earlier = some other → search other = none := by
  rw [values, List.findSome?_map, List.findSome?_eq_some_iff]
  constructor
  · rintro ⟨before, ⟨key, value⟩, after, split, found, nothing⟩
    have ordered := dict.ordered
    rw [split] at ordered
    have inside : (key, value) ∈ dict.entries := by simp [split]
    refine ⟨key, value, lookup_of_mem dict.ordered inside, found, fun earlier other less known => ?_⟩
    have among : (earlier, other) ∈ before ++ (key, value) :: after := split ▸ mem_of_lookup known
    rcases List.mem_append.mp among with first | later
    · exact nothing _ first
    · rcases List.mem_cons.mp later with same | beyond
      · rw [(Prod.mk.inj same).1] at less
        exact absurd less (String.lt_irrefl key)
      · have above := (List.pairwise_cons.mp (List.pairwise_append.mp ordered).2.1).1 _ beyond
        exact absurd (String.lt_trans above less) (String.lt_irrefl key)
  · rintro ⟨key, value, known, found, nothing⟩
    obtain ⟨before, after, split⟩ := List.append_of_mem (mem_of_lookup known)
    have ordered := dict.ordered
    rw [split] at ordered
    refine ⟨before, (key, value), after, split, found, fun entry first => ?_⟩
    have less := (List.pairwise_append.mp ordered).2.2 entry first _ List.mem_cons_self
    have inside : entry ∈ dict.entries := split ▸ List.mem_append_left _ first
    exact nothing entry.1 entry.2 less (lookup_of_mem dict.ordered inside)

theorem keys_nodup (dict : Dict α) : dict.keys.Nodup :=
  (List.pairwise_map.mpr dict.ordered).imp String.ne_of_lt

@[simp] theorem length_keys (dict : Dict α) : dict.keys.length = dict.size := List.length_map _

theorem keys_filter_sublist (dict : Dict α) (keep : String → α → Bool) :
    (dict.filter keep).keys.Sublist dict.keys := List.filter_sublist.map _

theorem keys_perm {left : Dict α} {right : Dict β}
    (same : ∀ key, left.contains key = right.contains key) : left.keys.Perm right.keys := by
  rw [List.perm_ext_iff_of_nodup left.keys_nodup right.keys_nodup]
  intro key
  rw [mem_keys_iff, mem_keys_iff, same]

theorem size_add_countP {left : Dict α} {right : Dict β} {gone : String → Bool}
    (kept : ∀ key, right.contains key = (left.contains key && !gone key)) :
    right.size + left.keys.countP gone = left.size := by
  have same : right.keys.Perm (left.keys.filter fun key => !gone key) := by
    rw [List.perm_ext_iff_of_nodup right.keys_nodup (left.keys_nodup.filter _)]
    intro key
    rw [mem_keys_iff, kept, List.mem_filter, mem_keys_iff, Bool.and_eq_true]
  have lengths := same.length_eq
  have either := List.length_eq_countP_add_countP gone (l := left.keys)
  rw [← List.countP_eq_length_filter, length_keys] at lengths
  rw [length_keys] at either
  simp only [Bool.not_eq_true, Bool.decide_eq_false] at either
  omega

theorem size_erase (dict : Dict α) {key : String} (present : dict.contains key = true) :
    (dict.erase key).size + 1 = dict.size := by
  have kept : ∀ other, (dict.erase key).contains other =
      (dict.contains other && !(other == key)) := by
    intro other
    rw [contains, get?_erase, contains]
    by_cases same : key = other
    · simp [same]
    · simp [same, Ne.symm same]
  have once : dict.keys.countP (· == key) = 1 := by
    change dict.keys.count key = 1
    rw [dict.keys_nodup.count, if_pos ((dict.mem_keys_iff key).mpr present)]
  have sizes := size_add_countP kept
  rwa [once] at sizes

/-! Changing every value commutes with what is done to one key. -/

section Map

variable (dict : Dict α) (change : α → β)

theorem map_insert (key : String) (value : α) :
    ((dict.insert key value).map fun _ held => change held) =
      (dict.map fun _ held => change held).insert key (change value) := by
  apply ext_get?
  intro other
  rw [get?_map, get?_insert, get?_insert, get?_map]
  split <;> rfl

theorem map_erase (key : String) :
    ((dict.erase key).map fun _ held => change held) =
      (dict.map fun _ held => change held).erase key := by
  apply ext_get?
  intro other
  rw [get?_map, get?_erase, get?_erase, get?_map]
  split <;> rfl

theorem map_filter {keep : String → α → Bool} {keepAfter : String → β → Bool}
    (same : ∀ key value, keepAfter key (change value) = keep key value) :
    ((dict.filter keep).map fun _ held => change held) =
      (dict.map fun _ held => change held).filter keepAfter := by
  apply ext_get?
  intro key
  rw [get?_map, get?_filter, get?_filter, get?_map]
  cases dict.get? key with
  | none => rfl
  | some value =>
    rw [Option.map_some, Option.filter_some, Option.filter_some, same]
    split <;> rfl

@[simp] theorem size_map : (dict.map fun _ held => change held).size = dict.size :=
  List.length_map _

@[simp] theorem contains_map (key : String) :
    (dict.map fun _ held => change held).contains key = dict.contains key := by
  rw [contains, contains, get?_map]
  cases dict.get? key <;> rfl

end Map

/-! Entries set one after another: under every key the new value, or the old one without any. -/

def Ascending (entries : List (String × α)) : Prop :=
  entries.Pairwise fun first second => first.1 < second.1

def Distinct (entries : List (String × α)) : Prop := (entries.map (·.1)).Nodup

theorem Ascending.distinct {entries : List (String × α)} (ascending : Ascending entries) :
    Distinct entries :=
  (List.pairwise_map.mpr ascending).imp String.ne_of_lt

theorem lookup_eq_none_of_not_mem {key : String} {entries : List (String × α)}
    (absent : key ∉ entries.map (·.1)) : lookup key entries = none := by
  induction entries with
  | nil => rfl
  | cons entry rest ih =>
    rw [List.map_cons, List.mem_cons, not_or] at absent
    obtain ⟨different, later⟩ := absent
    rw [lookup, if_neg (Ne.symm different)]
    exact ih later

theorem get?_foldl_insert (change : α → β) {entries : List (String × α)}
    (distinct : Distinct entries) (dict : Dict β) (key : String) :
    (entries.foldl (fun dict entry => dict.insert entry.1 (change entry.2)) dict).get? key =
      ((lookup key entries).map change).or (dict.get? key) := by
  induction entries generalizing dict with
  | nil => rfl
  | cons entry rest ih =>
    obtain ⟨here, value⟩ := entry
    obtain ⟨once, tail⟩ := List.nodup_cons.mp distinct
    rw [List.foldl_cons, ih tail, get?_insert, lookup]
    by_cases same : here = key
    · subst same
      rw [lookup_eq_none_of_not_mem once, if_pos rfl, if_pos rfl]
      rfl
    · rw [if_neg same, if_neg same]

def overwrite (dict changes : Dict α) : Dict α :=
  changes.entries.foldl (fun dict entry => dict.insert entry.1 entry.2) dict

theorem get?_overwrite (dict changes : Dict α) (key : String) :
    (dict.overwrite changes).get? key = (changes.get? key).or (dict.get? key) := by
  have held := get?_foldl_insert id (Ascending.distinct changes.ordered) dict key
  rw [Option.map_id] at held
  exact held

theorem ofList_entries (dict : Dict α) : ofList dict.entries = dict := by
  refine ext_get? fun key => ?_
  have held := get?_overwrite empty dict key
  rw [get?_empty, Option.or_none] at held
  exact held

theorem mem_of_mem_ofList {list : List (String × α)} {entry : String × α}
    (inside : entry ∈ (ofList list).entries) : entry ∈ list := by
  have collects : ∀ (list : List (String × α)) (start : Dict α),
      entry ∈ (list.foldl (fun dict entry => dict.insert entry.1 entry.2) start).entries →
        entry ∈ start.entries ∨ entry ∈ list := by
    intro list
    induction list with
    | nil => exact fun _ held => Or.inl held
    | cons first rest ih =>
      intro start held
      rcases ih _ held with placed | later
      · rcases mem_place placed with rfl | old
        · exact Or.inr List.mem_cons_self
        · exact Or.inl old
      · exact Or.inr (List.mem_cons_of_mem _ later)
  rcases collects list empty inside with nothing | listed
  · cases nothing
  · exact listed

end Dict

end Switchyard
