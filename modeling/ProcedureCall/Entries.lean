/-!
# Entries in order of insertion

A dictionary that shows its entries in the order in which the keys first came in. A key that comes
again keeps its place and takes the new value.
-/

namespace ProcedureCall

namespace Entries

variable {α β : Type} [DecidableEq α]

/-- The value of a key. -/
def get? (key : α) : List (α × β) → Option β
  | [] => none
  | (k, v) :: rest => if k = key then some v else get? key rest

/-- The entries with a value given to a key. -/
def put (key : α) (value : β) : List (α × β) → List (α × β)
  | [] => [(key, value)]
  | (k, v) :: rest => if k = key then (key, value) :: rest else (k, v) :: put key value rest

/-- The entries with a value given to a key that had none. -/
def putNew (key : α) (value : β) (entries : List (α × β)) : List (α × β) :=
  if (get? key entries).isSome then entries else entries ++ [(key, value)]

/-- The dictionary that a sequence of pairs builds up. -/
def ofPairs (pairs : List (α × β)) : List (α × β) :=
  pairs.foldl (fun entries (key, value) => put key value entries) []

@[simp]
theorem get?_put_self (key : α) (value : β) (entries : List (α × β)) :
    get? key (put key value entries) = some value := by
  induction entries with
  | nil => simp [put, get?]
  | cons entry rest ih =>
    obtain ⟨k, v⟩ := entry
    by_cases h : k = key <;> simp [put, get?, h, ih]

/-- Putting one key leaves the others alone. -/
theorem get?_put_of_ne {key other : α} (value : β) (entries : List (α × β)) (h : key ≠ other) :
    get? other (put key value entries) = get? other entries := by
  induction entries with
  | nil => simp [put, get?, h]
  | cons entry rest ih =>
    obtain ⟨k, v⟩ := entry
    by_cases hk : k = key
    · subst hk
      simp [put, get?, h]
    · by_cases ho : k = other <;> simp [put, get?, hk, ho, ih, Ne.symm h]

/-- A key that none of the entries has has no value. -/
theorem get?_of_forall_ne {key : α} {entries : List (α × β)}
    (h : ∀ entry ∈ entries, entry.1 ≠ key) : get? key entries = none := by
  induction entries with
  | nil => rfl
  | cons entry rest ih =>
    obtain ⟨k, v⟩ := entry
    obtain ⟨hk, hrest⟩ := List.forall_mem_cons.mp h
    rw [get?, if_neg hk, ih hrest]

/-- Exactly the keys of the entries have values. -/
theorem get?_eq_none_iff {key : α} {entries : List (α × β)} :
    get? key entries = none ↔ ∀ entry ∈ entries, entry.1 ≠ key := by
  refine ⟨fun h => ?_, get?_of_forall_ne⟩
  induction entries with
  | nil => simp
  | cons entry rest ih =>
    obtain ⟨k, v⟩ := entry
    by_cases hk : k = key
    · simp [get?, hk] at h
    · rw [get?, if_neg hk] at h
      exact List.forall_mem_cons.mpr ⟨hk, ih h⟩

theorem get?_append (key : α) (first more : List (α × β)) :
    get? key (first ++ more) = (get? key first <|> get? key more) := by
  induction first with
  | nil => simp [get?]
  | cons entry rest ih =>
    obtain ⟨k, v⟩ := entry
    by_cases h : k = key <;> simp [get?, h, ih]

/-- A value that is put in only if there is none counts after those that are there. -/
theorem get?_putNew (key other : α) (value : β) (entries : List (α × β)) :
    get? other (putNew key value entries) = (get? other entries <|> get? other [(key, value)]) := by
  unfold putNew
  split
  case isTrue h =>
    obtain ⟨v, hv⟩ := Option.isSome_iff_exists.mp h
    by_cases hk : key = other
    · subst hk
      simp [hv]
    · simp [get?, hk]
  case isFalse h => exact get?_append other entries _

theorem put_ne_nil (key : α) (value : β) (entries : List (α × β)) : put key value entries ≠ [] := by
  cases entries with
  | nil => simp [put]
  | cons entry rest =>
    rw [put]
    split <;> simp

/-- A key that has no value yet comes last. -/
theorem put_of_forall_ne {key : α} (value : β) {entries : List (α × β)}
    (h : ∀ entry ∈ entries, entry.1 ≠ key) : put key value entries = entries ++ [(key, value)] := by
  induction entries with
  | nil => rfl
  | cons entry rest ih =>
    obtain ⟨k, v⟩ := entry
    obtain ⟨hk, hrest⟩ := List.forall_mem_cons.mp h
    rw [put, if_neg hk, ih hrest]
    rfl

/-- Of pairs that are put in one after another the last with a key counts, and without one what was
there before. -/
theorem get?_foldl_put (key : α) (pairs entries : List (α × β)) :
    get? key (pairs.foldl (fun entries (k, v) => put k v entries) entries) =
      (get? key pairs.reverse).or (get? key entries) := by
  induction pairs generalizing entries with
  | nil => rfl
  | cons pair pairs ih =>
    obtain ⟨k, v⟩ := pair
    rw [List.foldl_cons, ih, List.reverse_cons, get?_append, Option.orElse_eq_orElse,
      Option.orElse_eq_or, Option.or_assoc]
    congr 1
    by_cases h : k = key
    · subst h
      simp [get?]
    · simp [get?, get?_put_of_ne v entries h, h]

end Entries

/-- Texts in the order of their code points. -/
def sortTexts (texts : List String) : List String := texts.mergeSort fun a b => decide (a ≤ b)

end ProcedureCall
